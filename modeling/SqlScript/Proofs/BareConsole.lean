import Mathlib.Data.List.Infix
import SqlScript.Console.Table
import SqlScript.Proofs.Faithful

/-!
# A faithful console

A console that makes nothing of a text but what is relied on: a tag reaches from a bracket to the
next one and does not show, and a backslash keeps the character behind it from being a mark. There
are no emoji, and the lines of a cell are not laid out one below the other.

* `Console.bare`: the console.
* `Console.Bare.isFaithful`: **it is faithful**, if a text is seen in which it stands.
-/

namespace SqlScript.Console

open Markup

namespace Bare

/-! ## The console -/

/-- Where a markup is read: in text, in a tag, or behind a backslash. -/
inductive Place where
  | text
  | tag
  | escape

/-- The characters of a markup that show. -/
def read : Place → List Char → List Char
  | _, [] => []
  | .tag, c :: cs => read (if c = ']' then .text else .tag) cs
  | .escape, c :: cs => c :: read .text cs
  | .text, c :: cs =>
    if c = '[' then read .tag cs
    else if c = '\\' then read .escape cs
    else c :: read .text cs

/-- Escapes a text: a backslash for each mark. -/
def escape (cs : List Char) : List Char := cs.flatMap fun c => if isMark c then ['\\', c] else [c]

/-- The widths of the columns of a table. -/
def widths (columns : Nat) (lines : List (List (List Char))) : List Nat :=
  (List.range columns).map fun i => (lines.map fun line => Text.width (line.getD i [])).foldl max 0

/-- A line of a table: `bar` stands before each cell, and behind the last one. -/
def row (bar : Char) (ws : List Nat) (cells : List (List Char)) : List Char :=
  ((ws.zip cells).flatMap fun (w, cell) => bar :: ' ' :: Wrap.pad w cell ++ [' ']) ++ [bar, '\n']

/-- A table in a box. -/
def table (header : List (List Char)) (rows : List (List (List Char))) : List Char :=
  let ws := widths header.length (header :: rows)
  Table.top.line ws ++ row '┃' ws header ++ Table.belowHeader.line ws ++
    rows.flatMap (row '│' ws) ++ Table.bottom.line ws

end Bare

/-- **A console without emoji, colors and layout.** -/
def bare : Console where
  escape s := String.ofList (Bare.escape s.toList)
  markup s := .ok (String.ofList (Bare.read .text s.toList ++ ['\n']))
  text s := .ok (s ++ "\n")
  table header rows :=
    let cell (s : String) := Bare.read .text s.toList
    .ok (String.ofList (Bare.table (header.map cell) (rows.map (·.map cell))))

namespace Bare

/-! ## Reading markup -/

/-- Characters that are no marks show. -/
theorem read_plain {cs : List Char} (h : cs.all (!isMark ·) = true) (rest : List Char) :
    read .text (cs ++ rest) = cs ++ read .text rest := by
  induction cs with
  | nil => rfl
  | cons c cs ih =>
    rw [List.all_cons, Bool.and_eq_true] at h
    have hmark : c ≠ '[' ∧ c ≠ '\\' := by simpa [isMark] using h.1
    rw [List.cons_append, List.cons_append, ← ih h.2, read, if_neg hmark.1, if_neg hmark.2]

/-- A tag does not show. -/
theorem read_tag {cs : List Char} (h : ']' ∉ cs) (rest : List Char) :
    read .text ('[' :: cs ++ ']' :: rest) = read .text rest := by
  have hinside : read .tag (cs ++ ']' :: rest) = read .text rest := by
    induction cs with
    | nil => rfl
    | cons c cs ih =>
      rw [List.mem_cons, not_or] at h
      rw [List.cons_append, read, if_neg (Ne.symm h.1), ih h.2]
  rw [List.cons_append, read, if_pos rfl]
  exact hinside

/-- **An escaped text shows as it is.** -/
theorem read_escape (cs rest : List Char) :
    read .text (escape cs ++ rest) = cs ++ read .text rest := by
  induction cs with
  | nil => rfl
  | cons c cs ih =>
    have hcons : escape (c :: cs) = (if isMark c then ['\\', c] else [c]) ++ escape cs :=
      List.flatMap_cons
    rw [hcons, List.append_assoc, List.cons_append, ← ih]
    split
    · rfl
    · rename_i hmark
      have hplain : [c].all (!isMark ·) = true := by simpa using hmark
      exact read_plain hplain _

/-- The digits of a number are no marks. -/
theorem all_digits (n : Nat) : (toString n).toList.all (!isMark ·) = true := by
  rw [Nat.toString_eq_ofList_toDigits, String.toList_ofList]
  refine List.all_eq_true.2 fun c hc => ?_
  have hdigit := Nat.isDigit_of_mem_toDigits (by decide) (by decide) hc
  have hne (d : Char) (hd : d.isDigit = false) : c ≠ d := by
    rintro rfl
    simp [hd] at hdigit
  simp [isMark, hne '[' (by decide), hne '\\' (by decide)]

theorem read_part (p : Part) (rest : List Char) :
    read .text ((p.markup bare.escape).toList ++ rest) = p.text.toList ++ read .text rest := by
  cases p with
  | own s plain => exact read_plain plain rest
  | data s =>
    rw [Part.markup, bare, String.toList_ofList]
    exact read_escape s.toList rest
  | number i =>
    refine read_plain ?_ rest
    cases i with
    | ofNat n => exact all_digits n
    | negSucc n =>
      show ("-" ++ toString (n + 1)).toList.all (!isMark ·) = true
      rw [String.toList_append, List.all_append, all_digits]
      rfl

theorem read_parts (ps : List Part) (rest : List Char) :
    read .text ((String.join (ps.map (·.markup bare.escape))).toList ++ rest) =
      (String.join (ps.map (·.text))).toList ++ read .text rest := by
  induction ps with
  | nil => rfl
  | cons p ps ih =>
    rw [List.map_cons, List.map_cons, String.join_cons, String.join_cons, String.toList_append,
      String.toList_append, List.append_assoc, read_part, ih, List.append_assoc]

/-- The name of a style can stand in a tag. -/
theorem not_mem_name (tint : Tint) : ']' ∉ tint.name.toList ∧ ']' ∉ '/' :: tint.name.toList := by
  cases tint <;> decide

theorem read_stretch (g : Stretch) (rest : List Char) :
    read .text ((g.markup bare.escape).toList ++ rest) =
      (String.join (g.parts.map (·.text))).toList ++ read .text rest := by
  unfold Stretch.markup
  cases g.tint with
  | none => exact read_parts g.parts rest
  | some tint =>
    -- the tag that opens is read in front of the parts, the one that closes behind them
    obtain ⟨hname, hclosing⟩ := not_mem_name tint
    have hopened := read_tag hname
      ((String.join (g.parts.map (·.markup bare.escape))).toList ++
        ('[' :: ('/' :: tint.name.toList) ++ ']' :: rest))
    rw [read_parts, read_tag hclosing] at hopened
    rw [← hopened]
    simp

/-- **A line of the program shows its text.** -/
theorem read_line (l : Line) : read .text (l.markup bare.escape).toList = l.text.toList := by
  -- over what is behind the line too: a stretch is read in front of the others
  have hlines (rest : List Char) : read .text ((l.markup bare.escape).toList ++ rest) =
      l.text.toList ++ read .text rest := by
    induction l with
    | nil => rfl
    | cons g l ih =>
      have hmarkup : Line.markup bare.escape (g :: l) =
          g.markup bare.escape ++ Line.markup bare.escape l := String.join_cons
      have htext : Line.text (g :: l) = String.join (g.parts.map (·.text)) ++ Line.text l :=
        String.join_append
      rw [hmarkup, htext, String.toList_append, String.toList_append, List.append_assoc,
        read_stretch, ih, List.append_assoc]
  simpa [read] using hlines []

/-! ## Tables -/

/-- A cell stands in its row, if there are columns for all cells. -/
theorem infix_row (bar : Char) {ws : List Nat} {cells : List (List Char)}
    (hlength : cells.length ≤ ws.length) {cell : List Char} (hcell : cell ∈ cells) :
    cell <:+: row bar ws cells := by
  obtain ⟨i, hi, rfl⟩ := List.getElem_of_mem hcell
  have hpair : (ws[i], cells[i]) ∈ ws.zip cells := by
    rw [← List.getElem_zip (h := by simp; omega)]
    exact List.getElem_mem _
  have hpad : cells[i] <:+: bar :: ' ' :: Wrap.pad ws[i] cells[i] ++ [' '] :=
    ⟨[bar, ' '], List.replicate (ws[i] - Text.width cells[i]) ' ' ++ [' '], by simp [Wrap.pad]⟩
  refine hpad.trans (List.IsInfix.trans ?_ (List.prefix_append _ _).isInfix)
  exact List.infix_of_mem_flatten (List.mem_map_of_mem (f := fun p : Nat × List Char =>
    bar :: ' ' :: Wrap.pad p.1 p.2 ++ [' ']) hpair)

/-- **The labels and the cells of a table stand in it.** -/
theorem infix_table {header : List (List Char)} {rows : List (List (List Char))}
    (hrows : ∀ row ∈ rows, row.length = header.length) {cell : List Char}
    (hcell : cell ∈ header ∨ ∃ row ∈ rows, cell ∈ row) : cell <:+: table header rows := by
  have hwidths : (widths header.length (header :: rows)).length = header.length := by simp [widths]
  rcases hcell with hlabel | ⟨cells, hcells, hcell⟩
  · refine (infix_row '┃' hwidths.ge hlabel).trans ?_
    refine ⟨Table.top.line (widths header.length (header :: rows)), ?_⟩
    rw [table]
    simp only [List.append_assoc]
    exact ⟨_, rfl⟩
  · have hlength := (hrows cells hcells).trans hwidths.symm
    refine (infix_row '│' hlength.le hcell).trans (List.IsInfix.trans
      (List.infix_of_mem_flatten (List.mem_map_of_mem hcells)) ?_)
    exact ⟨_, Table.bottom.line _, by rw [table, List.flatMap_def]⟩

/-- **The console is faithful**, if those texts are seen that stand in what is printed. -/
theorem isFaithful : bare.IsFaithful fun out t => t.toList <:+: out.toList where
  markup l := by
    refine ⟨_, rfl, ?_⟩
    rw [String.toList_ofList, read_line]
    exact (List.prefix_append _ _).isInfix
  text t := ⟨_, rfl, by rw [String.toList_append]; exact (List.prefix_append _ _).isInfix⟩
  table header rows hrows := by
    refine ⟨_, rfl, fun l hl => ?_⟩
    rw [String.toList_ofList]
    refine infix_table ?_ ?_
    · simpa using hrows
    · rw [← read_line]
      rcases hl with hl | ⟨row, hrow, hl⟩
      · exact .inl (List.mem_map_of_mem (List.mem_map_of_mem hl))
      · exact .inr ⟨_, List.mem_map_of_mem (List.mem_map_of_mem hrow),
          List.mem_map_of_mem (List.mem_map_of_mem hl)⟩
  part h := by
    refine List.IsInfix.trans ?_ h
    rw [String.toList_append, String.toList_append]
    exact List.infix_append _ _ _
  within h := by
    refine h.trans ?_
    rw [String.toList_append, String.toList_append]
    exact List.infix_append _ _ _

end Bare

end SqlScript.Console
