import SqlScript.Files.Loader
import SqlScript.Proofs.Utf8

/-!
# Looking up scripts

Which texts name resources, what a path leads to in a file tree, and what loading a script file
tells. A file name is asked for in bytes: where half of a surrogate pair has none, the encoder's
fault passes, although nothing is there.

* `ScriptName.IsResource`, `ScriptName.ofString_eq_resource_iff`: the texts that name resources.
* `FileTree.Leads`, `FileTree.Misses`, `FileTree.read_eq_ok_iff`: what is at a path.
* `Loader.Tells`, `Loader.tells_of_fault?_eq_none`: a text, a missing file, or what keeps a file
  from being read.
* `Loader.load_lookedUp`: **the look-up of scripts.**
-/

namespace SqlScript

/-! ## Splitting at a character -/

namespace Text

variable {separator : Char} {cs ds : List Char}

theorem splitAtChar_ne_nil (separator : Char) (cs : List Char) : splitAtChar separator cs ≠ [] := by
  fun_cases splitBy (· == separator) cs <;> simp [splitAtChar, splitBy, *]

theorem splitAtChar_of_not_mem (h : separator ∉ cs) : splitAtChar separator cs = [cs] := by
  induction cs with
  | nil => rfl
  | cons c cs ih =>
    rw [List.mem_cons, not_or] at h
    rw [splitAtChar] at ih ⊢
    simp [splitBy, Ne.symm h.1, ih h.2]

theorem splitAtChar_append (h : separator ∉ cs) :
    splitAtChar separator (cs ++ separator :: ds) = cs :: splitAtChar separator ds := by
  induction cs with
  | nil => simp [splitAtChar, splitBy]
  | cons c cs ih =>
    rw [List.mem_cons, not_or] at h
    rw [splitAtChar] at ih ⊢
    simp [splitBy, Ne.symm h.1, ih h.2]

/-- Two parts are what stands before and after the only separator. -/
theorem splitAtChar_eq_pair_iff {text : List Char} :
    splitAtChar separator text = [cs, ds] ↔
      text = cs ++ separator :: ds ∧ separator ∉ cs ∧ separator ∉ ds := by
  constructor
  · intro h
    by_cases hmem : separator ∈ text
    · obtain ⟨before, after, rfl, hbefore⟩ := List.eq_append_cons_of_mem hmem
      rw [splitAtChar_append hbefore, List.cons.injEq] at h
      obtain ⟨rfl, h⟩ := h
      by_cases hmem : separator ∈ after
      · obtain ⟨first, rest, rfl, hfirst⟩ := List.eq_append_cons_of_mem hmem
        rw [splitAtChar_append hfirst, List.cons.injEq] at h
        exact absurd h.2 (splitAtChar_ne_nil _ _)
      · rw [splitAtChar_of_not_mem hmem, List.cons.injEq] at h
        exact ⟨by rw [h.1], hbefore, h.1 ▸ hmem⟩
    · rw [splitAtChar_of_not_mem hmem] at h
      simp at h
  · rintro ⟨rfl, hcs, hds⟩
    rw [splitAtChar_append hcs, splitAtChar_of_not_mem hds]

end Text

/-! ## The names of scripts -/

namespace ScriptName

/-- **A name**: an ASCII letter or an underscore, then word characters. -/
inductive IsName : List Char → Prop where
  | intro {c : Char} {cs : List Char} (start : Text.isNameStart c = true)
      (rest : ∀ d ∈ cs, Text.isWord d = true) : IsName (c :: cs)

/-- **The name of a package**: names with dots between them. -/
inductive IsDotted : List Char → Prop where
  | name {cs : List Char} (name : IsName cs) : IsDotted cs
  | dot {cs ds : List Char} (name : IsName cs) (more : IsDotted ds) : IsDotted (cs ++ '.' :: ds)

/-- **The form of a resource**: a package of at least two characters, a colon, and something
without a colon. -/
structure IsResource (s package resource : String) : Prop where
  text : s = package ++ ":" ++ resource
  dotted : IsDotted package.toList
  long : 2 ≤ package.length
  nonempty : resource ≠ ""
  noColon : ':' ∉ resource.toList

theorem isIdentifier_iff {cs : List Char} : isIdentifier cs = true ↔ IsName cs := by
  constructor
  · intro h
    cases cs with
    | nil => cases h
    | cons c cs =>
      obtain ⟨hc, hcs⟩ := (Bool.and_eq_true ..).mp h
      exact .intro hc (List.all_eq_true.1 hcs)
  · rintro ⟨hc, hcs⟩
    exact (Bool.and_eq_true ..).mpr ⟨hc, List.all_eq_true.2 hcs⟩

theorem IsName.isWord {cs : List Char} (h : IsName cs) : ∀ c ∈ cs, Text.isWord c = true := by
  obtain ⟨hc, hcs⟩ := h
  rw [List.forall_mem_cons]
  exact ⟨Text.isWord_of_isNameStart hc, hcs⟩

theorem IsName.not_mem {cs : List Char} (h : IsName cs) {c : Char} (hc : Text.isWord c = false) :
    c ∉ cs := fun hmem => by simp [h.isWord c hmem] at hc

theorem isPackageName_cons {cs ds : List Char} (h : '.' ∉ cs) :
    isPackageName (cs ++ '.' :: ds) = (isIdentifier cs && isPackageName ds) := by
  rw [isPackageName, Text.splitAtChar_append h, List.all_cons, isPackageName]

theorem isPackageName_of_not_mem {cs : List Char} (h : '.' ∉ cs) :
    isPackageName cs = isIdentifier cs := by
  rw [isPackageName, Text.splitAtChar_of_not_mem h, List.all_cons, List.all_nil, Bool.and_true]

theorem isPackageName_iff {cs : List Char} : isPackageName cs = true ↔ IsDotted cs := by
  constructor
  · -- what stands behind the first dot is shorter
    induction hlen : cs.length using Nat.strongRecOn generalizing cs with
    | ind n ih =>
      intro h
      by_cases hdot : '.' ∈ cs
      · obtain ⟨first, rest, rfl, hfirst⟩ := List.eq_append_cons_of_mem hdot
        rw [isPackageName_cons hfirst, Bool.and_eq_true, isIdentifier_iff] at h
        exact .dot h.1 (ih rest.length (by rw [← hlen]; simp; omega) rfl h.2)
      · rw [isPackageName_of_not_mem hdot, isIdentifier_iff] at h
        exact .name h
  · intro h
    have hdot : Text.isWord '.' = false := by decide
    induction h with
    | name h => rwa [isPackageName_of_not_mem (h.not_mem hdot), isIdentifier_iff]
    | dot h _ ih =>
      rw [isPackageName_cons (h.not_mem hdot), Bool.and_eq_true, isIdentifier_iff]
      exact ⟨h, ih⟩

theorem IsDotted.not_mem_colon {cs : List Char} (h : IsDotted cs) : ':' ∉ cs := by
  have hcolon : Text.isWord ':' = false := by decide
  induction h with
  | name h => exact h.not_mem hcolon
  | dot h _ ih =>
    rw [List.mem_append, List.mem_cons, not_or, not_or]
    exact ⟨h.not_mem hcolon, by decide, ih⟩

/-- **Which texts name resources.** -/
theorem ofString_eq_resource_iff {s package resource : String} :
    ofString s = .resource package resource ↔ IsResource s package resource := by
  unfold ofString
  constructor
  · intro h
    split at h
    · rename_i name inside hsplit
      split at h
      · rename_i hform
        cases h
        obtain ⟨htext, -, hinside⟩ := Text.splitAtChar_eq_pair_iff.1 hsplit
        refine ⟨?_, ?_, ?_, ?_, ?_⟩
        · rw [← s.ofList_toList, htext]
          simp [String.append_assoc]
        · simpa using isPackageName_iff.1 hform.2.1
        · rw [String.length_ofList]
          exact hform.1
        · simpa using hform.2.2
        · simpa using hinside
      · cases h
    · cases h
  · intro h
    have hsplit : Text.splitAtChar ':' s.toList = [package.toList, resource.toList] := by
      rw [h.text]
      exact Text.splitAtChar_eq_pair_iff.2 ⟨by simp, h.dotted.not_mem_colon, h.noColon⟩
    rw [hsplit]
    dsimp only
    rw [if_pos, String.ofList_toList, String.ofList_toList]
    exact ⟨h.long, isPackageName_iff.2 h.dotted, by simpa using h.nonempty⟩

/-- Every other text is the path of a file. -/
theorem ofString_eq_file {s : String} (h : ∀ package resource, ¬ IsResource s package resource) :
    ofString s = .file (.ofString s) := by
  rcases hname : ofString s with p | ⟨package, resource⟩
  · unfold ofString at hname
    split at hname
    · split at hname
      · cases hname
      · exact hname.symm
    · exact hname.symm
  · exact absurd (ofString_eq_resource_iff.1 hname) (h package resource)

end ScriptName

/-! ## Following a path -/

namespace FileTree

variable {t : FileTree} {place parts : List String} {node : FileNode}

/-- **Where components lead** from a place on: through directories, up at `..`, and to a node. -/
inductive Leads (t : FileTree) : List String → List String → FileNode → Prop where
  | here {place : List String} {node : FileNode} (there : t.node? place = some node) :
      Leads t place [] node
  | up {place parts : List String} {node : FileNode}
      (directory : t.node? place = some .directory) (rest : Leads t place.dropLast parts node) :
      Leads t place (".." :: parts) node
  | into {place parts : List String} {part : String} {node : FileNode}
      (directory : t.node? place = some .directory) (name : part ≠ "..")
      (short : Text.nameBytes part ≤ maxNameBytes) (rest : Leads t (place ++ [part]) parts node) :
      Leads t place (part :: parts) node

/-- **Where nothing is**: components lead to a place where there is no node, whatever may follow
there. -/
inductive Misses (t : FileTree) : List String → List String → Prop where
  | here {place parts : List String} (missing : t.node? place = none) : Misses t place parts
  | up {place parts : List String} (directory : t.node? place = some .directory)
      (rest : Misses t place.dropLast parts) : Misses t place (".." :: parts)
  | into {place parts : List String} {part : String}
      (directory : t.node? place = some .directory) (name : part ≠ "..")
      (short : Text.nameBytes part ≤ maxNameBytes) (rest : Misses t (place ++ [part]) parts) :
      Misses t place (part :: parts)

variable {part : String}

theorem follow_of_missing (h : t.node? place = none) :
    t.follow place parts = .error .notFound := by
  cases parts <;> rw [follow, h]

theorem follow_up (h : t.node? place = some .directory) :
    t.follow place (".." :: parts) = t.follow place.dropLast parts := by
  rw [follow, h]
  exact if_pos rfl

/-- That something is there is asked beforehand, which changes nothing. -/
theorem follow_into (h : t.node? place = some .directory) (hname : part ≠ "..")
    (hshort : Text.nameBytes part ≤ maxNameBytes) :
    t.follow place (part :: parts) = t.follow (place ++ [part]) parts := by
  rw [follow, h]
  dsimp only
  rw [if_neg hname, if_neg (Nat.not_lt.2 hshort)]
  split
  · rename_i hmissing
    exact (follow_of_missing hmissing).symm
  · rfl

/-- What can become of the first component. -/
theorem follow_cases (t : FileTree) (place : List String) (part : String) (parts : List String) :
    t.node? place = none ∨
    (t.node? place = some .directory ∧ part = "..") ∨
    (t.node? place = some .directory ∧ part ≠ ".." ∧ Text.nameBytes part ≤ maxNameBytes) ∨
    ∃ e : SystemError, e ≠ .notFound ∧ t.follow place (part :: parts) = .error e := by
  rcases hnode : t.node? place with - | - | content | ⟨e, isThere⟩
  · exact .inl rfl
  · by_cases hname : part = ".."
    · exact .inr (.inl ⟨rfl, hname⟩)
    by_cases hshort : Text.nameBytes part ≤ maxNameBytes
    · exact .inr (.inr (.inl ⟨rfl, hname, hshort⟩))
    · refine .inr (.inr (.inr ⟨.nameTooLong, by simp, ?_⟩))
      rw [follow, hnode]
      dsimp only
      rw [if_neg hname, if_pos (Nat.not_le.1 hshort)]
  -- neither a file nor what cannot be read is a directory
  · refine .inr (.inr (.inr ⟨.notADirectory, by simp, ?_⟩))
    rw [follow, hnode]
  · refine .inr (.inr (.inr ⟨.notADirectory, by simp, ?_⟩))
    rw [follow, hnode]

theorem follow_eq_ok_iff :
    (∃ final, t.follow place parts = .ok (final, node)) ↔ t.Leads place parts node := by
  constructor
  · -- from every place: the next part is followed from where this one leads
    rintro ⟨final, h⟩
    induction parts generalizing place with
    | nil =>
      rw [follow] at h
      split at h
      · rename_i there
        cases h
        exact .here there
      · cases h
    | cons part parts ih =>
      rcases follow_cases t place part parts with
        hmissing | ⟨hdirectory, rfl⟩ | ⟨hdirectory, hname, hshort⟩ | ⟨e, -, he⟩
      · rw [follow_of_missing hmissing] at h
        cases h
      · rw [follow_up hdirectory] at h
        exact .up hdirectory (ih h)
      · rw [follow_into hdirectory hname hshort] at h
        exact .into hdirectory hname hshort (ih h)
      · rw [he] at h
        cases h
  · intro h
    induction h with
    | here there => exact ⟨_, by rw [follow, there]⟩
    | up directory _ ih => rwa [follow_up directory]
    | into directory name short _ ih => rwa [follow_into directory name short]

theorem follow_eq_notFound_iff :
    t.follow place parts = .error .notFound ↔ t.Misses place parts := by
  constructor
  · intro h
    induction parts generalizing place with
    | nil =>
      rw [follow] at h
      split at h
      · cases h
      · rename_i missing
        exact .here missing
    | cons part parts ih =>
      rcases follow_cases t place part parts with
        hmissing | ⟨hdirectory, rfl⟩ | ⟨hdirectory, hname, hshort⟩ | ⟨e, hother, he⟩
      · exact .here hmissing
      · rw [follow_up hdirectory] at h
        exact .up hdirectory (ih h)
      · rw [follow_into hdirectory hname hshort] at h
        exact .into hdirectory hname hshort (ih h)
      · rw [he] at h
        cases h
        exact absurd rfl hother
  · intro h
    induction h with
    | here missing => exact follow_of_missing missing
    | up directory _ ih => rwa [follow_up directory]
    | into directory name short _ ih => rwa [follow_into directory name short]

/-- **A path names a node**: it is not too long, and leads there from where it starts. -/
def Names (t : FileTree) (p : Path) (node : FileNode) : Prop :=
  Text.nameBytes p.text < pathBytesLimit ∧ t.Leads (t.startPlace p) p.parts node

/-- **Nothing is at a path.** -/
def Lacks (t : FileTree) (p : Path) : Prop :=
  Text.nameBytes p.text < pathBytesLimit ∧ t.Misses (t.startPlace p) p.parts

variable {p : Path}

theorem find_eq_ok_iff : (∃ place, t.find p = .ok (place, node)) ↔ t.Names p node := by
  rw [find, Names, ← follow_eq_ok_iff]
  split
  · rename_i hlong
    simp [Nat.not_lt.2 hlong]
  · rename_i hshort
    simp [Nat.not_le.1 hshort]

theorem find_eq_notFound_iff : t.find p = .error .notFound ↔ t.Lacks p := by
  rw [find, Lacks, ← follow_eq_notFound_iff]
  split
  · rename_i hlong
    simp [Nat.not_lt.2 hlong]
  · rename_i hshort
    simp [Nat.not_le.1 hshort]

variable (hp : p.fault? = none)
include hp

/-- **What can be read** are the files that paths name. -/
theorem read_eq_ok_iff {content : List UInt8} :
    t.read p = .ok content ↔ t.Names p (.file content) := by
  rw [read, hp, ← find_eq_ok_iff]
  rcases t.find p with e | ⟨place, - | content | ⟨e, isThere⟩⟩ <;> simp

/-- Where nothing is, nothing is found. -/
theorem read_of_lacks (h : t.Lacks p) : t.read p = .error (SystemError.notFound.fault p) := by
  rw [read, hp]
  dsimp only
  rw [find_eq_notFound_iff.2 h]

/-- What is there and cannot be read has another error of the system. -/
theorem read_of_not_lacks (h : ¬ t.Lacks p) {e : Fault} (he : t.read p = .error e) :
    ∃ error : SystemError, error ≠ .notFound ∧ e = error.fault p := by
  rw [read, hp] at he
  dsimp only at he
  split at he
  · cases he
  · rename_i error isThere hfind
    exact ⟨error, isThere, by simpa using he.symm⟩
  · rename_i error hfind
    refine ⟨error, ?_, by simpa using he.symm⟩
    rintro rfl
    exact h (find_eq_notFound_iff.1 hfind)
  · exact ⟨.isADirectory, by simp, by simpa using he.symm⟩

end FileTree

/-! ## Loading -/

namespace Loader

/-- **A failure to load** with a code and a cause; it blames no statement. -/
structure IsLoadFailure (f : Failure) (code : String) (cause : Fault) : Prop where
  kind : f.kind = .load
  code : f.code = code
  cause : f.cause = some cause
  noStatement : f.statementIndex = none

/-- What keeps a file that is there from being read: the operating system, or bytes that are not
text. -/
inductive IsObstacle (p : Path) : Fault → Prop where
  | system (e : SystemError) (other : e ≠ .notFound) : IsObstacle p (e.fault p)
  | decoding (e : Bytes.DecodeError) : IsObstacle p (.of .undecodable e.message)

/-- **What loading the script file at a path tells**: its text, that nothing is there, or what
keeps it from being read. -/
structure Tells (t : FileTree) (p : Path) (outcome : Except Fault String) : Prop where
  loaded : ∀ text, outcome = .ok text ↔ ∃ bytes cs, t.Names p (.file bytes) ∧
    Bytes.IsUtf8 bytes cs ∧ text = String.ofList (Text.unifyNewlines (Text.ofUnicode cs))
  missing : t.Lacks p → ∃ f, outcome = .error (.failure f) ∧
    IsLoadFailure f "script_not_found" (SystemError.notFound.fault p)
  unreadable : ∀ e, outcome = .error e → ¬ t.Lacks p → ∃ f cause, e = .failure f ∧
    IsObstacle p cause ∧ IsLoadFailure f "script_unreadable" cause

variable {κ τ : Type} {base : Option Path} {t : FileTree} {p : Path}

theorem load_fst (l : Loader) (name : ScriptName) (w : World κ τ) :
    (l.load t name w).1 = l.read t name := rfl

theorem readFile_utf8 :
    ({ baseDirectory := base } : Loader).readFile t p = (t.read p).bind fun bytes =>
      match Bytes.decodeUtf8 bytes with
      | .ok cs => .ok (String.ofList (Text.unifyNewlines cs))
      | .error e => .error (.of .undecodable e.message) := by
  have hnul : "utf-8".toList.contains (Char.ofNat 0) = false := by decide
  have hname : Bytes.Encoding.ofName? "utf-8" = some .utf8 := by decide +kernel
  rw [readFile]
  simp only [hnul, hname]
  rfl

theorem reportFile_notFound :
    reportFile p (SystemError.notFound.fault p) =
      .failure (Failure.scriptNotFound p.text (SystemError.notFound.fault p)) := rfl

theorem reportFile_of_isObstacle {cause : Fault} (h : IsObstacle p cause) :
    reportFile p cause = .failure (Failure.scriptUnreadable p.text cause) := by
  cases h with
  | system e other => cases e <;> first | rfl | exact absurd rfl other
  | decoding e => rfl

theorem isLoadFailure_scriptNotFound (name : String) (cause : Fault) :
    IsLoadFailure (Failure.scriptNotFound name cause) "script_not_found" cause :=
  ⟨rfl, rfl, rfl, rfl⟩

theorem isLoadFailure_scriptUnreadable (name : String) (cause : Fault) :
    IsLoadFailure (Failure.scriptUnreadable name cause) "script_unreadable" cause :=
  ⟨rfl, rfl, rfl, rfl⟩

theorem readFile_eq_ok_iff (hp : p.fault? = none) (base : Option Path) {text : String} :
    ({ baseDirectory := base } : Loader).readFile t p = .ok text ↔
      ∃ bytes cs, t.Names p (.file bytes) ∧ Bytes.IsUtf8 bytes cs ∧
        text = String.ofList (Text.unifyNewlines (Text.ofUnicode cs)) := by
  rw [readFile_utf8]
  constructor
  · intro h
    rcases hread : t.read p with e | bytes
    · simp [hread, Except.bind] at h
    rw [hread, Except.bind] at h
    rcases hdecode : Bytes.decodeUtf8 bytes with e | decoded
    · simp [hdecode] at h
    obtain ⟨cs, hcs, rfl⟩ := Bytes.decodeUtf8_eq_ok_iff.1 hdecode
    rw [hdecode] at h
    exact ⟨bytes, cs, (FileTree.read_eq_ok_iff hp).1 hread, hcs, by simpa using h.symm⟩
  · rintro ⟨bytes, cs, hnames, hcs, rfl⟩
    rw [(FileTree.read_eq_ok_iff hp).2 hnames, Except.bind,
      Bytes.decodeUtf8_eq_ok_iff.2 ⟨cs, hcs, rfl⟩]

/-- **What keeps a file from being read** is an obstacle, if something is there. -/
theorem isObstacle_of_readFile (hp : p.fault? = none) (h : ¬ t.Lacks p) {e : Fault}
    (he : ({ baseDirectory := base } : Loader).readFile t p = .error e) : IsObstacle p e := by
  rw [readFile_utf8] at he
  rcases hread : t.read p with cause | bytes
  · obtain ⟨error, hother, rfl⟩ := FileTree.read_of_not_lacks hp h hread
    rw [hread, Except.bind] at he
    cases he
    exact .system error hother
  · rw [hread, Except.bind] at he
    rcases hdecode : Bytes.decodeUtf8 bytes with error | decoded
    · rw [hdecode] at he
      cases he
      exact .decoding error
    · simp [hdecode] at he

/-- **A path that the system can be asked for** is told about. -/
theorem tells_of_fault?_eq_none (hp : p.fault? = none) :
    Tells t p ((({ baseDirectory := base } : Loader).readFile t p).mapError (reportFile p)) := by
  refine ⟨fun text => ?_, fun h => ?_, fun e he h => ?_⟩
  · rw [← readFile_eq_ok_iff hp base]
    rcases ({ baseDirectory := base } : Loader).readFile t p with e | content
    · constructor <;> intro h <;> cases h
    · rfl
  · refine ⟨_, ?_, isLoadFailure_scriptNotFound p.text _⟩
    rw [readFile_utf8, FileTree.read_of_lacks hp h]
    exact congrArg Except.error reportFile_notFound
  · rcases hfile : ({ baseDirectory := base } : Loader).readFile t p with cause | text
    · have hobstacle := isObstacle_of_readFile hp h hfile
      rw [hfile] at he
      cases he
      exact ⟨_, cause, reportFile_of_isObstacle hobstacle, hobstacle,
        isLoadFailure_scriptUnreadable p.text cause⟩
    · rw [hfile] at he
      cases he

/-- **A path without bytes** is not looked up at all, and its fault is none that is reported. -/
theorem read_of_unencodable {run : Text.UnencodableRun}
    (h : Text.unencodable? Text.isByteSurrogate
      (({ baseDirectory := base } : Loader).resolve p).text = some run) :
    ({ baseDirectory := base } : Loader).read t (.file p) =
      .error (.of .unencodable run.message) := by
  have hfault : (({ baseDirectory := base } : Loader).resolve p).fault? =
      some (.of .unencodable run.message) := by rw [Path.fault?, h]
  rw [read, readFile_utf8, FileTree.read, hfault]
  rfl

/-- **Looking up scripts.** A text of the form of a resource names it, and every other one a file.
Loading tells about every file whose path has bytes; where it has none, the encoder's fault
passes. -/
theorem load_lookedUp (base : Option Path) (t : FileTree) (w : World κ τ) :
    (∀ s package resource,
      ScriptName.ofString s = .resource package resource ↔
        ScriptName.IsResource s package resource) ∧
    (∀ s, (∀ package resource, ¬ ScriptName.IsResource s package resource) →
      ScriptName.ofString s = .file (.ofString s)) ∧
    ∀ p : Path, let l : Loader := { baseDirectory := base }
      (p.isAbsolute = true ∨ base = none → l.resolve p = p) ∧
      (∀ b, base = some b → p.isAbsolute = false →
        l.resolve p = ⟨b.start, b.parts ++ p.parts⟩) ∧
      ((l.resolve p).hasNul = false →
        match Text.unencodable? Text.isByteSurrogate (l.resolve p).text with
        | none => Tells t (l.resolve p) (l.load t (.file p) w).1
        | some run => (l.load t (.file p) w).1 = .error (.of .unencodable run.message)) := by
  refine ⟨fun _ _ _ => ScriptName.ofString_eq_resource_iff, fun _ => ScriptName.ofString_eq_file,
    fun p => ⟨?_, ?_, fun hnul => ?_⟩⟩
  · rintro (h | rfl)
    · cases base with
      | none => rfl
      | some base => exact Path.join_of_isAbsolute h base
    · rfl
  · rintro b rfl h
    simp [resolve, Path.join, h]
  · rw [load_fst]
    split
    · rename_i hrun
      exact tells_of_fault?_eq_none (by rw [Path.fault?, hrun]; simp [hnul])
    · rename_i run hrun
      exact read_of_unencodable hrun

/-- A resource by its name, and a file with an accent and another system's line ending. -/
theorem load_lookedUp_accent :
    ScriptName.ofString "jobs.daily:load.sql" = .resource "jobs.daily" "load.sql" ∧
    (({ baseDirectory := some ⟨.root, ["jobs"]⟩ } : Loader).load
      { nodes := [(["jobs"], .directory), (["jobs", "a.sql"], .file [0xc3, 0xa9, 0x0d, 0x0a])] }
      (.file ⟨.relative, ["a.sql"]⟩) (⟨(), [], [], [], ""⟩ : World Unit Unit)).1 = .ok "é\n" := by
  obtain ⟨hresource, -, hfile⟩ := load_lookedUp (some ⟨.root, ["jobs"]⟩)
    { nodes := [(["jobs"], .directory), (["jobs", "a.sql"], .file [0xc3, 0xa9, 0x0d, 0x0a])] }
    (⟨(), [], [], [], ""⟩ : World Unit Unit)
  constructor
  · exact (hresource _ _ _).2 ⟨by decide, ScriptName.isPackageName_iff.1 (by decide), by decide,
      by decide, by decide⟩
  · have htells := (hfile ⟨.relative, ["a.sql"]⟩).2.2 (by decide)
    refine (htells.loaded _).2
      ⟨[0xc3, 0xa9, 0x0d, 0x0a], ['é', '\r', '\n'], ⟨by decide, ?_⟩, by decide, by decide⟩
    exact .into rfl (by decide) (by decide) (.into rfl (by decide) (by decide) (.here rfl))

/-- Half of a surrogate pair in a name: nothing is there, but no failure tells so. -/
theorem not_tells_half :
    let p : Path := ⟨.relative, [String.ofList (Text.loneSurrogate 0xd800 :: ".sql".toList)]⟩
    p.hasNul = false ∧ FileTree.Lacks {} p ∧
      ¬ Tells {} p
        (({} : Loader).load {} (.file p) (⟨(), [], [], [], ""⟩ : World Unit Unit)).1 := by
  intro p
  have hlacks : FileTree.Lacks {} p :=
    ⟨by decide, .into rfl (by decide) (by decide) (.here rfl)⟩
  refine ⟨by decide, hlacks, fun h => ?_⟩
  obtain ⟨f, hf, -⟩ := h.missing hlacks
  let run : Text.UnencodableRun := ⟨0xd800, 0, 0⟩
  have hrun : Text.unencodable? Text.isByteSurrogate p.text = some run := by decide +kernel
  have hread : ({} : Loader).read {} (.file p) = .error (.of .unencodable run.message) :=
    read_of_unencodable hrun
  rw [load_fst, hread] at hf
  cases hf

end Loader

end SqlScript
