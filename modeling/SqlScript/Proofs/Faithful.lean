import Mathlib.Data.List.Basic
import SqlScript.Console

/-!
# Faithful consoles

What may be relied on of a console, whatever its layout: that it reads a line and the texts of a
table as markup, and that in markup an escaped text stands for itself. The program writes lines of
its own texts, in one of its styles or in none, and of escaped data. On a faithful console these are
printed, and their data are seen.

* `Markup.Line`: the lines of the program.
* `Console.IsFaithful`: what is relied on.
* `Console.Displays`: actions that print, and what is seen of it.
* `Console.IsFaithful.displays_line`, `Console.IsFaithful.displays_table`: **lines and tables whose
  data are escaped are printed with their data.**
-/

namespace SqlScript

/-! ## Lines -/

namespace Markup

/-- The styles that the program uses. -/
inductive Tint where
  | green
  | red
  | yellow
  | cyan
  | dim
  | bold
  deriving DecidableEq, Repr

/-- The name of a style in a tag. -/
@[simp]
def Tint.name : Tint → String
  | green => "green"
  | red => "red"
  | yellow => "yellow"
  | cyan => "cyan"
  | dim => "dim"
  | bold => "bold"

/-- A character that can make a tag of a text, or keep it from being one. -/
def isMark (c : Char) : Bool := c == '[' || c == '\\'

/-- **A part of a line**: a text of the program's own, a number, or data. -/
inductive Part where
  | own (s : String) (plain : s.toList.all (!isMark ·) = true := by decide)
  | number (i : Int)
  | data (s : String)

/-- A stretch of a line: parts in one style, or without a style. -/
structure Stretch where
  tint : Option Tint := none
  parts : List Part

/-- **A line of the program**, by its stretches. -/
abbrev Line := List Stretch

/-- The markup of a part: data are escaped. -/
@[simp]
def Part.markup (escape : String → String) : Part → String
  | own s _ => s
  | number i => toString i
  | data s => escape s

/-- The text of a part. -/
def Part.text : Part → String
  | own s _ => s
  | number i => toString i
  | data s => s

/-- The data in a part. -/
@[simp]
def Part.data? : Part → Option String
  | data s => some s
  | _ => none

/-- The markup of a stretch: its parts between two tags, if it has a style. -/
@[simp]
def Stretch.markup (escape : String → String) (g : Stretch) : String :=
  let inside := String.join (g.parts.map (·.markup escape))
  match g.tint with
  | some tint => "[" ++ tint.name ++ "]" ++ inside ++ "[/" ++ tint.name ++ "]"
  | none => inside

/-- **The markup of a line.** -/
@[simp]
def Line.markup (escape : String → String) (l : Line) : String :=
  String.join (l.map (·.markup escape))

/-- **The text of a line**, without its tags and its escapes. -/
def Line.text (l : Line) : String := String.join (l.flatMap fun g => g.parts.map (·.text))

/-- The data in a line. -/
def Line.data (l : Line) : List String := l.flatMap fun g => g.parts.filterMap (·.data?)

/-- The data of a line stand in its text. -/
theorem Line.exists_text_eq {l : Line} {s : String} (h : s ∈ l.data) :
    ∃ before after, l.text = before ++ s ++ after := by
  obtain ⟨g, hg, hs⟩ := List.mem_flatMap.1 h
  obtain ⟨p, hp, hdata⟩ := List.mem_filterMap.1 hs
  have htext : p.text = s := by
    cases p with
    | data t => exact Option.some.inj hdata
    | own t _ => cases hdata
    | number i => cases hdata
  have hmem : s ∈ l.flatMap fun g => g.parts.map (·.text) :=
    List.mem_flatMap.2 ⟨g, hg, List.mem_map.2 ⟨p, hp, htext⟩⟩
  obtain ⟨before, after, hsplit⟩ := List.append_of_mem hmem
  refine ⟨String.join before, String.join after, ?_⟩
  rw [Line.text, hsplit, String.join_append, String.join_cons, String.append_assoc]

end Markup

open Markup

/-! ## What is relied on -/

namespace Console

/-- **A faithful console**, where `shows out t` says that a text `t` is seen as it is in what is
printed. Lines and tables of the program are printed with their texts: tags are read, and what is
escaped stands for itself. A line without markup is printed with its text. What is seen stays so in
more that is printed, and so does each part of it. -/
structure IsFaithful (c : Console) (shows : String → String → Prop) : Prop where
  markup (l : Line) : ∃ out, c.markup (l.markup c.escape) = .ok out ∧ shows out l.text
  text (t : String) : ∃ out, c.text t = .ok out ∧ shows out t
  table (header : List Line) (rows : List (List Line))
    (hrows : ∀ row ∈ rows, row.length = header.length) :
    ∃ out, c.table (header.map (·.markup c.escape)) (rows.map (·.map (·.markup c.escape))) =
      .ok out ∧ ∀ l, (l ∈ header ∨ ∃ row ∈ rows, l ∈ row) → shows out l.text
  part {out before t after : String} : shows out (before ++ t ++ after) → shows out t
  within {out before t after : String} : shows out t → shows (before ++ out ++ after) t

variable {κ τ : Type}

/-- **An action that displays texts**: in every world it prints the same, in which they are seen,
and does nothing else. -/
def Displays (shows : String → String → Prop) (a : Action (World κ τ) Unit) (texts : List String) :
    Prop :=
  ∃ out, (∀ w, a w = (.ok (), { w with printed := w.printed ++ out })) ∧ ∀ t ∈ texts, shows out t

namespace Displays

variable {shows : String → String → Prop} {a b : Action (World κ τ) Unit}
  {texts more : List String}

/-- What does nothing displays nothing. -/
theorem nil : Displays shows (pure () : Action (World κ τ) Unit) [] :=
  ⟨"", fun w => by simp, by simp⟩

/-- What is printed at once. -/
theorem single {out : String} {r : Except Fault String} (hr : r = .ok out)
    (hshows : ∀ t ∈ texts, shows out t) :
    Displays shows (do World.print (← Action.ofExcept r) : Action (World κ τ) Unit) texts := by
  refine ⟨out, fun w => ?_, hshows⟩
  rw [hr]
  rfl

/-- Fewer texts are displayed too. -/
theorem mono (ha : Displays shows a texts) (h : more ⊆ texts) : Displays shows a more := by
  obtain ⟨out, hout, hshows⟩ := ha
  exact ⟨out, hout, fun t ht => hshows t (h ht)⟩

end Displays

namespace IsFaithful

variable {c : Console} {shows : String → String → Prop} (hc : c.IsFaithful shows)

include hc

/-- What is displayed one after the other. -/
theorem displays_bind {a b : Action (World κ τ) Unit} {texts more : List String}
    (ha : Displays shows a texts) (hb : Displays shows b more) :
    Displays shows (do a; b) (texts ++ more) := by
  obtain ⟨out, hout, hshows⟩ := ha
  obtain ⟨next, hnext, hmore⟩ := hb
  refine ⟨out ++ next, fun w => ?_, fun t ht => ?_⟩
  · rw [Action.bind_of_ok (hout w), hnext, String.append_assoc]
  · rcases List.mem_append.1 ht with ht | ht
    · exact String.empty_append (s := out) ▸ hc.within (hshows t ht)
    · exact String.append_empty (s := out ++ next) ▸ hc.within (hmore t ht)

/-- **A line of the program displays its data.** -/
theorem displays_line {l : Line} {markup : String} (hmarkup : markup = l.markup c.escape) :
    Displays shows (c.printMarkup markup : Action (World κ τ) Unit) l.data := by
  obtain ⟨out, hout, hshows⟩ := hc.markup l
  refine .single (hmarkup ▸ hout) fun t ht => ?_
  obtain ⟨before, after, htext⟩ := Line.exists_text_eq ht
  exact hc.part (htext ▸ hshows)

/-- A line of the program is printed, whatever is in it. -/
theorem displays_nothing {l : Line} {markup : String} (hmarkup : markup = l.markup c.escape) :
    Displays shows (c.printMarkup markup : Action (World κ τ) Unit) [] :=
  (hc.displays_line hmarkup).mono (List.nil_subset _)

/-- **A line without markup displays its text**, and each part of it. -/
theorem displays_text {text before t after : String} (htext : text = before ++ t ++ after) :
    Displays shows (c.printText text : Action (World κ τ) Unit) [t] := by
  obtain ⟨out, hout, hshows⟩ := hc.text text
  refine .single hout fun u hu => ?_
  rw [List.mem_singleton.1 hu]
  exact hc.part (htext ▸ hshows)

/-- **A table displays the data** in its labels and its cells. -/
theorem displays_table {header : List Line} {rows : List (List Line)} {labels : List String}
    {cells : List (List String)} (hlabels : labels = header.map (·.markup c.escape))
    (hcells : cells = rows.map (·.map (·.markup c.escape)))
    (hrows : ∀ row ∈ rows, row.length = header.length) :
    Displays shows (c.printTable labels cells : Action (World κ τ) Unit)
      (header.flatMap Line.data ++ rows.flatMap (·.flatMap Line.data)) := by
  obtain ⟨out, hout, hshows⟩ := hc.table header rows hrows
  have hline {l : Line} (hl : l ∈ header ∨ ∃ row ∈ rows, l ∈ row) : ∀ t ∈ l.data, shows out t := by
    intro t ht
    obtain ⟨before, after, htext⟩ := Line.exists_text_eq ht
    exact hc.part (htext ▸ hshows l hl)
  refine .single (by rw [hlabels, hcells, hout]) fun t ht => ?_
  rcases List.mem_append.1 ht with ht | ht
  · obtain ⟨l, hl, ht⟩ := List.mem_flatMap.1 ht
    exact hline (.inl hl) t ht
  · obtain ⟨row, hrow, ht⟩ := List.mem_flatMap.1 ht
    obtain ⟨l, hl, ht⟩ := List.mem_flatMap.1 ht
    exact hline (.inr ⟨row, hrow, hl⟩) t ht

end IsFaithful

end Console

end SqlScript
