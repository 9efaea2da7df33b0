import Mathlib.Data.List.Basic
import Offload.Command.Options

/-!
The words of a command line, read item by item.

A line is taken as the items that its words spell. An item is read by itself, whatever the words in
it look like, and leaves nothing to be settled but itself.
-/

namespace Offload.Command

/-! ### Items and their words -/

/-- What stands behind the command: a flag, an option with its value behind an equals sign, or an
argument as a word of its own. -/
inductive Item
  | flag (f : Flag)
  | value (o : Opt) (text : String)
  | arg (text : String)
  deriving DecidableEq

def Item.words : Item → List String
  | .flag f => ["--" ++ f.spelling]
  | .value o text => ["--" ++ o.spelling ++ "=" ++ text]
  | .arg text => ["--" ++ Opt.arg.spelling, text]

/-- The values that an option is given, in the order of the line. -/
def texts (o : Opt) (items : List Item) : List String :=
  items.filterMap fun
    | .value o' text => if o' = o then some text else none
    | .arg text => if .arg = o then some text else none
    | .flag _ => none

/-! ### Words -/

lemma attached_append {name : List Char} (h : '=' ∉ name) (value : List Char) :
    attached (name ++ '=' :: value) = some (String.ofList value) := by
  induction name with
  | nil => rfl
  | cons c name ih =>
    simp only [List.mem_cons, not_or] at h
    rw [List.cons_append, attached, if_neg (Ne.symm h.1)]
    exact ih h.2

lemma attached_eq_none {name : List Char} (h : '=' ∉ name) : attached name = none := by
  induction name with
  | nil => rfl
  | cons c name ih =>
    simp only [List.mem_cons, not_or] at h
    rw [attached, if_neg (Ne.symm h.1)]
    exact ih h.2

lemma takeWhile_append {name : List Char} (h : '=' ∉ name) (rest : List Char) :
    (name ++ rest).takeWhile (· ≠ '=') = name ++ rest.takeWhile (· ≠ '=') :=
  List.takeWhile_append_of_pos fun _ hc => decide_eq_true fun heq => h (heq ▸ hc)

/-- A word of two dashes and letters is a long name. -/
lemma Word.of_dashes {w : String} {c : Char} {r : List Char} (h : w.toList = '-' :: '-' :: c :: r) :
    Word.of w =
      .long (String.ofList ((c :: r).takeWhile (· ≠ '='))) (attached (c :: r)) := by
  unfold Word.of
  rw [h]
  rfl

variable {name : String} (hne : name ≠ "") (h : '=' ∉ name.toList)

include hne h

lemma Word.of_name : Word.of ("--" ++ name) = .long name none := by
  obtain ⟨c, r, hname⟩ := List.exists_cons_of_ne_nil (mt String.toList_eq_nil_iff.1 hne)
  have hword : ("--" ++ name).toList = '-' :: '-' :: c :: r := by simp [hname]
  have htake := takeWhile_append h []
  rw [List.append_nil, List.takeWhile_nil, List.append_nil] at htake
  rw [Word.of_dashes hword, ← hname, htake, attached_eq_none h, String.ofList_toList]

lemma Word.of_value (value : String) :
    Word.of ("--" ++ name ++ "=" ++ value) = .long name (some value) := by
  obtain ⟨c, r, hname⟩ := List.exists_cons_of_ne_nil (mt String.toList_eq_nil_iff.1 hne)
  have hword : ("--" ++ name ++ "=" ++ value).toList =
      '-' :: '-' :: c :: (r ++ '=' :: value.toList) := by simp [hname]
  have htake := takeWhile_append h ('=' :: value.toList)
  rw [List.takeWhile_cons_of_neg (by simp), List.append_nil] at htake
  rw [Word.of_dashes hword, ← List.cons_append, ← hname, htake, attached_append h,
    String.ofList_toList, String.ofList_toList]

omit hne h

lemma Flag.spelling_shape (f : Flag) : f.spelling ≠ "" ∧ '=' ∉ f.spelling.toList := by
  cases f <;> decide

lemma Opt.spelling_shape (o : Opt) : o.spelling ≠ "" ∧ '=' ∉ o.spelling.toList := by
  cases o <;> decide

/-- No option of a run is spelled as a flag, nor as another option. -/
lemma run_opt? (o : Opt) :
    Scope.run.flag? o.spelling = none ∧ Scope.run.opt? o.spelling = some o := by
  cases o <;> decide

/-! ### One item -/

/-- What an item adds to what the line has given. -/
def Given.take (g : Given) : Item → Except UsageError Given
  | .flag f => g.raise f
  | .value o text => g.set o text
  | .arg text => g.set .arg text

/-- A state of the line that comes to `g` once its pending option is settled, and in which no
option waits for a word. -/
structure Line.Comes (l : Line) (g : Given) : Prop where
  settle : l.settle = .ok { given := g }
  waiting : l.waiting? = none
  escaped : l.escaped = false

lemma Line.comes_given (g : Given) : Line.Comes { given := g } g := ⟨rfl, rfl, rfl⟩

variable {l : Line} {g g' : Given}

/-- A word that is a long name is taken by that name. -/
lemma Line.Comes.step_long (h : l.Comes g) {w name : String} {value : Option String}
    (hw : Word.of w = .long name value) : l.step .run w = l.long .run name value := by
  rw [Line.step, h.escaped, h.waiting, hw]
  rfl

lemma Line.Comes.step_flag (h : l.Comes g) {f : Flag} (hf : f ∈ Scope.run.flags)
    (hraise : g.raise f = .ok g') : l.step .run ("--" ++ f.spelling) = .ok { given := g' } := by
  have hflag : Scope.run.flag? f.spelling = some f := by cases f <;> revert hf <;> decide
  rw [h.step_long (Word.of_name f.spelling_shape.1 f.spelling_shape.2)]
  simp only [Line.long, hflag, Line.raise, h.settle, hraise, bind, Except.bind, pure, Except.pure]

lemma Line.Comes.step_value (h : l.Comes g) {o : Opt} {text : String}
    (hset : g.set o text = .ok g') :
    l.step .run ("--" ++ o.spelling ++ "=" ++ text) = .ok { given := g' } := by
  obtain ⟨hflag, hopt⟩ := run_opt? o
  rw [h.step_long (Word.of_value o.spelling_shape.1 o.spelling_shape.2 text)]
  simp only [Line.long, hflag, hopt, Line.set, h.settle, hset, bind, Except.bind, pure,
    Except.pure]

lemma Line.Comes.step_name (h : l.Comes g) (o : Opt) :
    l.step .run ("--" ++ o.spelling) = .ok { given := g, pending := some ⟨o, none⟩ } := by
  obtain ⟨hflag, hopt⟩ := run_opt? o
  rw [h.step_long (Word.of_name o.spelling_shape.1 o.spelling_shape.2)]
  simp only [Line.long, hflag, hopt, Line.await, h.settle, bind, Except.bind, pure, Except.pure]

/-- **One item**: an item that is in order is read by itself, and the line then comes to what it
adds. -/
lemma Line.Comes.run_item (h : l.Comes g) {item : Item} (htake : g.take item = .ok g')
    (hflags : ∀ f, item = .flag f → f ∈ Scope.run.flags) :
    ∃ l', l.run .run item.words = .ok l' ∧ l'.Comes g' := by
  have hrun : ∀ {w l₁ words l₂}, l.step .run w = .ok l₁ → Line.run l₁ .run words = .ok l₂ →
      l.run .run (w :: words) = .ok l₂ := by
    intro w l₁ words l₂ hstep hrest
    rw [Line.run, List.foldlM_cons, hstep]
    exact hrest
  cases item with
  | flag f => exact ⟨_, hrun (h.step_flag (hflags f rfl) htake) rfl, comes_given g'⟩
  | value o text => exact ⟨_, hrun (h.step_value htake) rfl, comes_given g'⟩
  | arg text =>
    have hset : g.set .arg text = .ok g' := htake
    -- the option waits, and takes the word before anything looks at it
    refine ⟨{ given := g, pending := some ⟨.arg, some text⟩ }, hrun (h.step_name .arg) rfl, ?_,
      rfl, rfl⟩
    simp only [Line.settle, hset, Except.map]

/-- **All items**: a line of items that are in order gives what they add, one after the other. -/
lemma Line.Comes.run_items (h : l.Comes g) {items : List Item}
    (htake : items.foldlM Given.take g = .ok g')
    (hflags : ∀ f, .flag f ∈ items → f ∈ Scope.run.flags) :
    ∃ l', l.run .run (items.flatMap Item.words) = .ok l' ∧ l'.Comes g' := by
  induction items generalizing l g with
  | nil =>
    obtain rfl := Except.ok.inj htake
    exact ⟨l, rfl, h⟩
  | cons item items ih =>
    rw [List.foldlM_cons] at htake
    rcases hfirst : g.take item with e | g₁
    · rw [hfirst] at htake
      cases htake
    · rw [hfirst] at htake
      obtain ⟨l₁, hrun, h₁⟩ := h.run_item hfirst fun f hf => hflags f (by simp [hf])
      obtain ⟨l', hrest, h'⟩ := ih h₁ htake fun f hf => hflags f (List.mem_cons_of_mem _ hf)
      refine ⟨l', ?_, h'⟩
      rw [List.flatMap_cons, Line.run, List.foldlM_append]
      exact (congrArg (·.bind fun l => l.run .run (items.flatMap Item.words)) hrun).trans hrest

lemma Given.ofWords_items {items : List Item} (htake : items.foldlM Given.take {} = .ok g)
    (hflags : ∀ f, .flag f ∈ items → f ∈ Scope.run.flags) :
    Given.ofWords .run (items.flatMap Item.words) = .ok g := by
  obtain ⟨l, hrun, h⟩ := (Line.comes_given {}).run_items htake hflags
  simp only [Given.ofWords, hrun, bind, Except.bind, h.settle, pure, Except.pure]

end Offload.Command
