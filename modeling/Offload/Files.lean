import Offload.Text.Utf8

/-!
Files as a run sees them: what reading a path gives, and a tree of files held in memory.

A path is walked from the working directory one component at a time. A step into something that
is no directory fails, and so does a component, or a whole path, beyond the system's limits.
-/

namespace Offload

inductive FileFault
  | notFound
  | isDirectory
  | notDirectory
  | nameTooLong
  | zeroInName
  | notText
  deriving DecidableEq, Repr

def FileFault.message : FileFault → String
  | .notFound => "No such file or directory (os error 2)"
  | .isDirectory => "Is a directory (os error 21)"
  | .notDirectory => "Not a directory (os error 20)"
  | .nameTooLong => "File name too long (os error 36)"
  | .zeroInName => "file name contained an unexpected NUL byte"
  | .notText => "stream did not contain valid UTF-8"

/-- What reading each path gives. -/
abbrev Files := String → Except FileFault (List UInt8)

def Files.readText (files : Files) (path : String) : Except FileFault String := do
  let bytes ← files path
  match Text.ofUtf8? bytes with
  | some s => .ok s
  | none => .error .notText

namespace Files

/-- The parts of a path between its slashes. -/
def components : List Char → List String
  | cs => (cs.splitOn '/').map String.ofList

inductive Entry
  | file (bytes : List UInt8)
  | directory

/-- Files and directories below the working directory, under their paths from it. -/
abbrev Tree := List (String × Entry)

/-- A place that a walk has reached; the directories above the working directory hold nothing
that a path could name. -/
inductive Place
  | inside (parents : List String)
  | outside
  | atFile (bytes : List UInt8)

def Tree.find? (t : Tree) (name : String) : Option Entry :=
  match List.lookup name t with
  | some e => some e
  | none =>
    if t.any fun e => (name ++ "/").toList.isPrefixOf e.1.toList then some .directory else none

/-- `parents` is listed from the innermost directory outwards. -/
def Tree.step (t : Tree) : Place → String → Except FileFault Place
  | .atFile _, _ => .error .notDirectory
  | place, "" => .ok place
  | place, "." => .ok place
  | .outside, ".." => .ok .outside
  | .inside [], ".." => .ok .outside
  | .inside (_ :: up), ".." => .ok (.inside up)
  | place, name =>
    if 255 < name.utf8ByteSize then .error .nameTooLong
    else
      match place with
      | .inside parents =>
        match t.find? ("/".intercalate (parents.reverse ++ [name])) with
        | some (.file bytes) => .ok (.atFile bytes)
        | some .directory => .ok (.inside (name :: parents))
        | none => .error .notFound
      | _ => .error .notFound

def ofTree (t : Tree) : Files := fun path =>
  if '\x00' ∈ path.toList then .error .zeroInName
  else if path.isEmpty then .error .notFound
  else if 4096 ≤ path.utf8ByteSize then .error .nameTooLong
  else
    let start := if path.toList.head? = some '/' then Place.outside else .inside []
    match (components path.toList).foldlM t.step start with
    | .ok (.atFile bytes) => .ok bytes
    | .ok _ => .error .isDirectory
    | .error e => .error e

/-- The last component of a path that names something, up to its last point. A point at the
front of a name ends nothing, and a path that ends by going up has no name. -/
def stem? (path : String) : Option String :=
  let named := (components path.toList).filter fun c => c ≠ "" ∧ c ≠ "."
  match named.getLast? with
  | none | some ".." => none
  | some name =>
    let cs := name.toList
    let after := cs.reverse.takeWhile (· ≠ '.')
    let before := cs.take (cs.length - after.length - 1)
    some (if before.isEmpty then name else String.ofList before)

/-- A last component that names something is the one that a path goes by. -/
theorem getLast?_named {cs : List Char} {before : List String} {last : String}
    (h : components cs = before ++ [last]) (hempty : last ≠ "") (hdot : last ≠ ".") :
    ((components cs).filter fun c => c ≠ "" ∧ c ≠ ".").getLast? = some last := by
  rw [h, List.filter_append]
  simp [hempty, hdot]

section Names

variable {front name base ext : List Char}

/-- Behind a front that is empty or ends with a slash comes one component more. -/
theorem components_append (hfront : front = [] ∨ ∃ cs, front = cs ++ ['/']) (hname : '/' ∉ name) :
    ∃ before, components (front ++ name) = before ++ [String.ofList name] := by
  obtain rfl | ⟨cs, rfl⟩ := hfront
  · exact ⟨[], by simp [components, List.splitOn_eq_singleton hname]⟩
  · refine ⟨components cs, ?_⟩
    rw [components, List.append_assoc, List.singleton_append, List.splitOn_append_cons_self,
      List.splitOn_eq_singleton hname, List.map_append]
    rfl

theorem takeWhile_reverse_append (hpoint : '.' ∉ ext) :
    (base ++ '.' :: ext).reverse.takeWhile (· ≠ '.') = ext.reverse := by
  have hext : ∀ c ∈ ext.reverse, decide (c ≠ '.') = true := by
    intro c hc
    exact decide_eq_true fun heq => hpoint (heq ▸ List.mem_reverse.1 hc)
  rw [List.reverse_append, List.reverse_cons, List.append_assoc,
    List.takeWhile_append_of_pos hext, List.singleton_append,
    List.takeWhile_cons_of_neg (by simp), List.append_nil]

theorem append_ne_points (hpoint : '.' ∉ ext) (hname : ext = [] → base ≠ [] ∧ base ≠ ['.']) :
    base ++ '.' :: ext ≠ ['.'] ∧ base ++ '.' :: ext ≠ ['.', '.'] := by
  rcases base with _ | ⟨c, _ | ⟨d, r⟩⟩
  · refine ⟨fun heq => (hname (List.cons.inj heq).2).1 rfl, fun heq => ?_⟩
    rw [(List.cons.inj heq).2] at hpoint
    exact hpoint (List.mem_singleton_self _)
  · refine ⟨by simp, fun heq => ?_⟩
    obtain ⟨rfl, htail⟩ := List.cons.inj heq
    exact (hname (List.cons.inj htail).2).2 rfl
  · exact ⟨by simp, by simp⟩

/-- A file goes by its name up to the last point, unless nothing stands before that point. -/
theorem stem?_eq (hfront : front = [] ∨ ∃ cs, front = cs ++ ['/']) (hbase : '/' ∉ base)
    (hslash : '/' ∉ ext) (hpoint : '.' ∉ ext) (hname : ext = [] → base ≠ [] ∧ base ≠ ['.']) :
    stem? (String.ofList (front ++ (base ++ '.' :: ext))) =
      some (String.ofList (if base = [] then '.' :: ext else base)) := by
  have hlast : '/' ∉ base ++ '.' :: ext := by simp [hbase, hslash]
  obtain ⟨before, hparts⟩ := components_append hfront hlast
  have hne : ∀ cs, base ++ '.' :: ext ≠ cs →
      String.ofList (base ++ '.' :: ext) ≠ String.ofList cs :=
    fun _ h heq => h (String.ofList_inj.1 heq)
  obtain ⟨hdot, hdots⟩ := append_ne_points hpoint hname
  have hnamed := getLast?_named hparts (hne [] (by simp)) (hne ['.'] hdot)
  have hup : String.ofList (base ++ '.' :: ext) ≠ ".." := hne ['.', '.'] hdots
  have hbefore : (base ++ '.' :: ext).take ((base ++ '.' :: ext).length - ext.length - 1) =
      base := List.take_left' (by simp only [List.length_append, List.length_cons]; omega)
  simp only [stem?, String.toList_ofList, hnamed, takeWhile_reverse_append hpoint,
    List.length_reverse, hbefore]
  cases base with
  | nil => rfl
  | cons c r => rfl

example : stem? "a/b.tar.gz" = some "b.tar" ∧ stem? ".hidden" = some ".hidden" ∧
    stem? "k." = some "k" := by
  decide +kernel

end Names

end Files

end Offload
