import Offload.Proofs.Command.Lines
import Offload.Proofs.Text.Integer

/-!
The options of a run read back, in whatever order they stand behind the command.

What a line gives is told by the items of each name alone: each option and each flag comes to what
its own items make of it, and items of other names leave it as it is. So a line that describes a
run, name by name, is read as the run.
-/

namespace Offload.Command

/-! ### Values -/

def SpellsPath (path text : String) : Prop := text = path ∧ path ≠ ""

def SpellsText (name text : String) : Prop := text = name

def SpellsCount (n : UInt32) (text : String) : Prop := Text.Signed n.toNat text.toList

def SpellsInt (i : Int32) (text : String) : Prop := Text.Signed i.toInt text.toList

def SpellsSize (n : UInt64) (text : String) : Prop := Text.Unsigned n.toNat text.toList

variable {text : String}

lemma path_of_spells {p : String} (h : SpellsPath p text) : path text = .ok p := by
  obtain ⟨rfl, hne⟩ := h
  simp [path, hne]

lemma boundedInt_of_signed {i low high : Int} (h : Text.Signed i text.toList)
    (hlow : low ≤ i) (hhigh : i ≤ high) (hmin : -(Int64.size / 2 : Nat) ≤ low)
    (hmax : high < (Int64.size / 2 : Nat)) : boundedInt low high text = .ok i := by
  rw [boundedInt, Text.readSigned_of_signed h (by omega) (by omega)]
  exact if_pos ⟨hlow, hhigh⟩

lemma count32_of_spells {n : UInt32} (h : SpellsCount n text) : count32 text = .ok n := by
  have hn : n.toNat < UInt32.size := n.toNat_lt
  rw [count32, boundedInt_of_signed h (by omega) (by omega) (by decide) (by decide)]
  simp [Except.map]

lemma int32_of_spells {i : Int32} (h : SpellsInt i text) : int32 text = .ok i := by
  rw [int32, boundedInt_of_signed h i.minValue_le_toInt i.toInt_le (by decide) (by decide)]
  simp [Except.map]

lemma size64_of_spells {n : UInt64} (h : SpellsSize n text) : size64 text = .ok n := by
  have hread : Text.readUnsigned 10 UInt64.size text.toList = .ok n.toNat :=
    (Text.readUnsigned_eq_ok_iff (by decide)).2 ⟨h, n.toNat_lt⟩
  rw [size64, hread]
  simp

/-- What an option comes to that may be given once: what it was, or the one value it is given. -/
inductive Fills {α : Type} (Spells : α → String → Prop) (before : Option α) :
    List String → Option α → Prop
  | left : Fills Spells before [] before
  | given {a : α} {text : String} (hbefore : before = none) (h : Spells a text) :
      Fills Spells before [text] (some a)

/-- What a flag comes to that may be given once: what it was, or raised by the one that is there. -/
inductive Raises (before : Bool) : Nat → Bool → Prop
  | left : Raises before 0 before
  | raised (hbefore : before = false) : Raises before 1 true

section Fills

variable {α : Type} {Spells : α → String → Prop} {before after : Option α} {ts : List String}

lemma Fills.eq_of_nil (h : Fills Spells before [] after) : before = after := by
  cases h
  rfl

/-- A value of an option is the only one, and none was there before. -/
lemma Fills.once {read : String → Except UsageError α}
    (hread : ∀ a text, Spells a text → read text = .ok a)
    (h : Fills Spells before (text :: ts) after) :
    Command.once before (read text) = .ok after ∧ Fills Spells after ts after := by
  obtain _ | ⟨hbefore, h⟩ := h
  rw [hbefore, hread _ _ h]
  exact ⟨rfl, .left⟩

lemma Fills.spelled {a : α} (h : Fills Spells none ts (some a)) : ∃ text, Spells a text := by
  cases h with
  | given _ h => exact ⟨_, h⟩

/-- A value that may be left out is spelled as its text, if it has one. -/
lemma Fills.of_map {value : Option α} (spell : α → String)
    (h : ∀ a ∈ value, Spells a (spell a)) : Fills Spells none (value.map spell).toList value := by
  cases value with
  | none => exact .left
  | some a => exact .given rfl (h a rfl)

end Fills

lemma Raises.eq_of_zero {before after : Bool} (h : Raises before 0 after) : before = after := by
  cases h
  rfl

lemma Raises.of_toNat (b : Bool) : Raises false b.toNat b := by
  cases b with
  | false => exact .left
  | true => exact .raised rfl

lemma Raises.of_succ {before after : Bool} {n : Nat} (h : Raises before (n + 1) after) :
    before = false ∧ after = true ∧ n = 0 := by
  generalize hcount : n + 1 = k at h
  cases h with
  | left => omega
  | raised hbefore => exact ⟨hbefore, rfl, by omega⟩

/-! ### Options and flags by their names -/

/-- The values of an option. The arguments have none, as they may come any number of times. -/
def Opt.Value : Opt → Type
  | .library | .kernel | .name | .signature => String
  | .simCores | .repeats => UInt32
  | .dim => Int32
  | .heapBytes => UInt64
  | .arg => Empty

def Opt.Spells : (o : Opt) → o.Value → String → Prop
  | .library | .kernel => SpellsPath
  | .name | .signature => SpellsText
  | .simCores | .repeats => SpellsCount
  | .dim => SpellsInt
  | .heapBytes => SpellsSize
  | .arg => fun _ _ => False

def Opt.read : (o : Opt) → String → Except UsageError o.Value
  | .library | .kernel => path
  | .name | .signature => .ok
  | .simCores | .repeats => count32
  | .dim => int32
  | .heapBytes => size64
  | .arg => fun _ => .error .badValue

lemma Opt.read_of_spells (o : Opt) (v : o.Value) (text : String) (h : o.Spells v text) :
    o.read text = .ok v := by
  cases o with
  | library | kernel => exact path_of_spells h
  | name | signature => exact congrArg Except.ok h
  | simCores | repeats => exact count32_of_spells h
  | dim => exact int32_of_spells h
  | heapBytes => exact size64_of_spells h
  | arg => exact h.elim

namespace Given

def get (g : Given) : (o : Opt) → Option o.Value
  | .library => g.library
  | .simCores => g.simCores
  | .kernel => g.kernel
  | .name => g.name
  | .signature => g.signature
  | .dim => g.dim
  | .heapBytes => g.heapBytes
  | .repeats => g.repeats
  | .arg => none

def put (g : Given) : (o : Opt) → Option o.Value → Given
  | .library, v => { g with library := v }
  | .simCores, v => { g with simCores := v }
  | .kernel, v => { g with kernel := v }
  | .name, v => { g with name := v }
  | .signature, v => { g with signature := v }
  | .dim, v => { g with dim := v }
  | .heapBytes, v => { g with heapBytes := v }
  | .repeats, v => { g with repeats := v }
  | .arg, _ => g

def isRaised (g : Given) : Flag → Bool
  | .verbose => g.verbose
  | .simulate => g.simulate
  | .json => g.json
  | .isInstance => g.isInstance
  | .help | .version => false

def mark (g : Given) : Flag → Given
  | .verbose => { g with verbose := true }
  | .simulate => { g with simulate := true }
  | .json => { g with json := true }
  | .isInstance => { g with isInstance := true }
  | .help | .version => g

variable (g : Given) {o o' : Opt} {f f' : Flag}

/-- An option other than the arguments is read once, and kept under its name. -/
lemma set_eq (ho : o ≠ .arg) (text : String) :
    g.set o text = (once (g.get o) (o.read text)).map (g.put o) := by
  cases o with
  | arg => exact absurd rfl ho
  | _ => rfl

lemma raise_eq (hf : f ≠ .help ∧ f ≠ .version) :
    g.raise f = if g.isRaised f then .error .conflict else .ok (g.mark f) := by
  cases f with
  | help => exact absurd rfl hf.1
  | version => exact absurd rfl hf.2
  | _ => rfl

lemma get_put_self (ho : o ≠ .arg) (v : Option o.Value) : (g.put o v).get o = v := by
  cases o with
  | arg => exact absurd rfl ho
  | _ => rfl

lemma get_put_of_ne (h : o ≠ o') (v : Option o.Value) : (g.put o v).get o' = g.get o' := by
  cases o <;> cases o' <;> first | rfl | exact absurd rfl h

lemma isRaised_put (v : Option o.Value) : (g.put o v).isRaised f = g.isRaised f := by
  cases o <;> cases f <;> rfl

lemma args_put (v : Option o.Value) : (g.put o v).args = g.args := by
  cases o <;> rfl

lemma isRaised_mark_self (hf : f ≠ .help ∧ f ≠ .version) : (g.mark f).isRaised f = true := by
  cases f with
  | help => exact absurd rfl hf.1
  | version => exact absurd rfl hf.2
  | _ => rfl

lemma isRaised_mark_of_ne (h : f ≠ f') : (g.mark f).isRaised f' = g.isRaised f' := by
  cases f <;> cases f' <;> first | rfl | exact absurd rfl h

lemma get_mark : (g.mark f).get o = g.get o := by
  cases f <;> cases o <;> rfl

lemma args_mark : (g.mark f).args = g.args := by
  cases f <;> rfl

/-- What a line has given is told by its flags, its options and its arguments. -/
lemma eq_of_names {g g' : Given} (hflags : ∀ f, g.isRaised f = g'.isRaised f)
    (hopts : ∀ o, g.get o = g'.get o) (hargs : g.args = g'.args) : g = g' := by
  cases g
  cases g'
  simp only [mk.injEq]
  exact ⟨hflags .verbose, hflags .simulate, hflags .json, hflags .isInstance, hopts .library,
    hopts .simCores, hopts .kernel, hopts .name, hopts .signature, hopts .dim, hargs,
    hopts .heapBytes, hopts .repeats⟩

end Given

/-! ### What the items come to -/

def runFlags : List Flag := [.verbose, .simulate, .isInstance]

/-- Items that lead from what was given before them to what is given after them: every name but
that of the arguments is used at most once. -/
structure Gives (before : Given) (items : List Item) (after : Given) : Prop where
  known : ∀ f, .flag f ∈ items → f ∈ runFlags
  flags : ∀ f, Raises (before.isRaised f) (items.count (.flag f)) (after.isRaised f)
  opts : ∀ o, o ≠ .arg → Fills o.Spells (before.get o) (texts o items) (after.get o)
  args : before.args.toList ++ texts .arg items = after.args.toList

variable {before after : Given} {items : List Item}

lemma Gives.eq_of_nil (h : Gives before [] after) : before = after := by
  refine Given.eq_of_names (fun f => ?_) (fun o => ?_) ?_
  · exact (h.flags f).eq_of_zero
  · by_cases ho : o = .arg
    · rw [ho]
      rfl
    · exact (h.opts o ho).eq_of_nil
  · have hargs := h.args
    rw [texts, List.filterMap_nil, List.append_nil] at hargs
    exact Array.toList_inj.1 hargs

lemma Gives.step_flag {f : Flag} (h : Gives before (.flag f :: items) after) :
    ∃ g, before.take (.flag f) = .ok g ∧ Gives g items after := by
  have hf : f ∈ runFlags := h.known f (by simp)
  have hplain : f ≠ .help ∧ f ≠ .version := by cases f <;> revert hf <;> decide
  have hraises := h.flags f
  rw [List.count_cons_self] at hraises
  obtain ⟨hlow, hhigh, hcount⟩ := hraises.of_succ
  refine ⟨before.mark f, ?_, fun f' hf' => h.known f' (List.mem_cons_of_mem _ hf'),
    fun f' => ?_, fun o ho => ?_, ?_⟩
  · rw [Given.take, before.raise_eq hplain, hlow]
    rfl
  · by_cases heq : f = f'
    · obtain rfl := heq
      rw [before.isRaised_mark_self hplain, hhigh, hcount]
      exact .left
    · have hrest := h.flags f'
      rw [List.count_cons_of_ne (by simpa using heq)] at hrest
      rwa [before.isRaised_mark_of_ne heq]
  · rw [before.get_mark]
    exact h.opts o ho
  · rw [before.args_mark]
    exact h.args

lemma Gives.step_value {o : Opt} {text : String} (h : Gives before (.value o text :: items) after) :
    ∃ g, before.take (.value o text) = .ok g ∧ Gives g items after := by
  have hknown : ∀ f, .flag f ∈ items → f ∈ runFlags :=
    fun f hf => h.known f (List.mem_cons_of_mem _ hf)
  have hflags : ∀ f, Raises (before.isRaised f) (items.count (.flag f)) (after.isRaised f) := by
    intro f
    have hrest := h.flags f
    rwa [List.count_cons_of_ne (by simp)] at hrest
  have hself : texts o (.value o text :: items) = text :: texts o items := by simp [texts]
  have hother : ∀ {o'}, o ≠ o' → texts o' (.value o text :: items) = texts o' items :=
    fun hne => by simp [texts, hne]
  by_cases ho : o = .arg
  · obtain rfl := ho
    refine ⟨{ before with args := before.args.push text }, rfl, hknown, hflags, fun o' ho' => ?_,
      ?_⟩
    · have hrest := h.opts o' ho'
      rw [hother (Ne.symm ho')] at hrest
      cases o' <;> exact hrest
    · have hargs := h.args
      rw [hself] at hargs
      simpa using hargs
  · have hfills := h.opts o ho
    rw [hself] at hfills
    obtain ⟨honce, hrest⟩ := hfills.once o.read_of_spells
    refine ⟨before.put o (after.get o), ?_, hknown, fun f => ?_, fun o' ho' => ?_, ?_⟩
    · rw [Given.take, before.set_eq ho, honce]
      rfl
    · rw [before.isRaised_put]
      exact hflags f
    · by_cases heq : o = o'
      · obtain rfl := heq
        rwa [before.get_put_self ho]
      · have hkept := h.opts o' ho'
        rw [hother heq] at hkept
        rwa [before.get_put_of_ne heq]
    · have hargs := h.args
      rw [hother ho] at hargs
      rwa [before.args_put]

/-- The first of the items can be taken, and the rest lead on from there. -/
lemma Gives.step {item : Item} (h : Gives before (item :: items) after) :
    ∃ g, before.take item = .ok g ∧ Gives g items after := by
  cases item with
  | flag f => exact h.step_flag
  | value o text => exact h.step_value
  | arg text =>
    -- one word or two, an argument is the same
    have hvalue : Gives before (.value .arg text :: items) after := {
      known := fun f hf => h.known f (by simpa using hf)
      flags := fun f => by simpa using h.flags f
      opts := h.opts
      args := h.args }
    exact hvalue.step_value

/-- **A run of items**: what is given before them becomes what is given after them. -/
lemma Gives.foldlM (h : Gives before items after) :
    items.foldlM Given.take before = .ok after := by
  -- what stands before the items moves with each of them, what stands after the last does not
  induction items generalizing before with
  | nil =>
    rw [h.eq_of_nil]
    rfl
  | cons item items ih =>
    obtain ⟨g, htake, hrest⟩ := h.step
    rw [List.foldlM_cons, htake]
    exact ih hrest

/-! ### Runs -/

/-- Items that describe a run, and whether it is told at length: each flag is there once where it
is set, each option at most once, and its value is the run's; what is left out is at its default.
The arguments are the run's, in their order; nothing is said of the order otherwise. -/
structure Describes (items : List Item) (verbose : Bool) (r : RunOptions) : Prop where
  known : ∀ f, .flag f ∈ items → f ∈ runFlags
  verbose : Raises false (items.count (.flag .verbose)) verbose
  simulate : Raises false (items.count (.flag .simulate)) r.backend.simulate
  isInstance : Raises false (items.count (.flag .isInstance)) r.isInstance
  library : Fills SpellsPath none (texts .library items) r.backend.library
  simCores : Fills SpellsCount none (texts .simCores items) r.backend.simCores
  kernel : Fills SpellsPath none (texts .kernel items) (some r.kernel)
  name : Fills SpellsText none (texts .name items) r.name
  signature : ∃ v, Fills SpellsText none (texts .signature items) v ∧ r.signature = v.getD "()V"
  dim : Fills SpellsInt none (texts .dim items) (some r.dim)
  heapBytes : ∃ v, Fills SpellsSize none (texts .heapBytes items) v ∧
    r.heapBytes = v.getD 1048576
  repeats : ∃ v, Fills SpellsCount none (texts .repeats items) v ∧ r.repeats = v.getD 1
  args : texts .arg items = r.args

/-! ### Every run has its line -/

def flagItems (f : Flag) (b : Bool) : List Item := if b then [.flag f] else []

def valueItems (o : Opt) (text : Option String) : List Item := text.toList.map (.value o)

lemma texts_append (o : Opt) (items items' : List Item) :
    texts o (items ++ items') = texts o items ++ texts o items' := List.filterMap_append

lemma texts_flagItems (o : Opt) (f : Flag) (b : Bool) : texts o (flagItems f b) = [] := by
  cases b <;> rfl

lemma texts_valueItems (o o' : Opt) (text : Option String) :
    texts o (valueItems o' text) = if o' = o then text.toList else [] := by
  cases text with
  | none => simp [valueItems, texts]
  | some text => by_cases h : o' = o <;> simp [valueItems, texts, h]

lemma texts_args (o : Opt) (args : List String) :
    texts o (args.map .arg) = if .arg = o then args else [] := by
  by_cases h : .arg = o <;> simp [texts, List.filterMap_map, h]

lemma count_flagItems (f f' : Flag) (b : Bool) :
    (flagItems f' b).count (.flag f) = if f' = f then b.toNat else 0 := by
  by_cases h : f' = f <;> cases b <;> simp [flagItems, h]

lemma count_valueItems (f : Flag) (o : Opt) (text : Option String) :
    (valueItems o text).count (.flag f) = 0 := by
  cases text <;> simp [valueItems]

lemma count_args (f : Flag) (args : List String) :
    (args.map Item.arg).count (.flag f) = 0 := by
  simp [List.count_eq_zero]

namespace RunOptions

variable (verbose : Bool) (r : RunOptions)

/-- The text of an option's value, given or at its default. -/
def text? : Opt → Option String
  | .library => r.backend.library
  | .simCores => r.backend.simCores.map fun n => toString (n.toNat : Int)
  | .kernel => some r.kernel
  | .name => r.name
  | .signature => some r.signature
  | .dim => some (toString r.dim.toInt)
  | .heapBytes => some (toString r.heapBytes.toNat)
  | .repeats => some (toString (r.repeats.toNat : Int))
  | .arg => none

/-- A line that gives everything of a run, its defaults too. -/
def toItems : List Item :=
  flagItems .verbose verbose ++ flagItems .simulate r.backend.simulate ++
    flagItems .isInstance r.isInstance ++
    (Scope.run.opts.flatMap fun o => valueItems o (r.text? o)) ++ r.args.map .arg

lemma texts_toItems {o : Opt} (ho : o ≠ .arg) :
    texts o (r.toItems verbose) = (r.text? o).toList := by
  cases o with
  | arg => exact absurd rfl ho
  | _ =>
    simp [toItems, Scope.opts, texts_append, texts_flagItems, texts_valueItems, texts_args]

lemma texts_arg_toItems : texts .arg (r.toItems verbose) = r.args := by
  simp [toItems, Scope.opts, texts_append, texts_flagItems, texts_valueItems, texts_args, text?]

lemma count_toItems (f : Flag) :
    (r.toItems verbose).count (.flag f) =
      ((flagItems .verbose verbose ++ flagItems .simulate r.backend.simulate ++
        flagItems .isInstance r.isInstance).count (.flag f)) := by
  simp [toItems, Scope.opts, count_valueItems, count_args]

end RunOptions

lemma spellsSize_toString (n : UInt64) : SpellsSize n (toString n.toNat) := by
  have h := Text.unsigned_toDigits n.toNat
  rwa [← Nat.toList_repr] at h

/-- A run whose paths are not empty is what its line describes. -/
lemma describes_toItems (verbose : Bool) {r : RunOptions} (hkernel : r.kernel ≠ "")
    (hlibrary : ∀ path ∈ r.backend.library, path ≠ "") :
    Describes (r.toItems verbose) verbose r := by
  have hfills : ∀ (o : Opt) {v : Option o.Value}, o ≠ .arg →
      Fills o.Spells none (r.text? o).toList v →
      Fills o.Spells none (texts o (r.toItems verbose)) v := by
    intro o v ho h
    rwa [r.texts_toItems verbose ho]
  have hraises : ∀ {f b}, (flagItems .verbose verbose ++ flagItems .simulate r.backend.simulate ++
      flagItems .isInstance r.isInstance).count (.flag f) = b.toNat →
      Raises false ((r.toItems verbose).count (.flag f)) b := by
    intro f b h
    rw [r.count_toItems, h]
    exact .of_toNat b
  have htext : ∀ {Spells} {value : Option String}, (∀ text ∈ value, Spells text text) →
      Fills Spells none value.toList value := by
    intro Spells value h
    simpa using Fills.of_map id h
  exact {
    known := fun f hf => by
      have hcount := List.count_pos_iff.2 hf
      rw [r.count_toItems] at hcount
      cases f with
      | verbose | simulate | isInstance => decide
      | json | help | version => simp [count_flagItems] at hcount
    verbose := hraises (by simp [count_flagItems])
    simulate := hraises (by simp [count_flagItems])
    isInstance := hraises (by simp [count_flagItems])
    library := hfills .library (by decide) (htext fun path hpath => ⟨rfl, hlibrary path hpath⟩)
    simCores := hfills .simCores (by decide) (.of_map _ fun n _ => Text.signed_toString n.toNat)
    kernel := hfills .kernel (by decide) (.given rfl ⟨rfl, hkernel⟩)
    name := hfills .name (by decide) (htext fun _ _ => rfl)
    signature := ⟨some r.signature, hfills .signature (by decide) (.given rfl rfl), rfl⟩
    dim := hfills .dim (by decide) (.given rfl (Text.signed_toString _))
    heapBytes :=
      ⟨some r.heapBytes, hfills .heapBytes (by decide) (.given rfl (spellsSize_toString _)), rfl⟩
    repeats :=
      ⟨some r.repeats, hfills .repeats (by decide) (.given rfl (Text.signed_toString _)), rfl⟩
    args := r.texts_arg_toItems verbose }

/-! ### Runs read back -/

/-- What a line gives that describes a run, with the values of the options that have a default. -/
def RunOptions.given (verbose : Bool) (r : RunOptions) (signature : Option String)
    (heapBytes : Option UInt64) (repeats : Option UInt32) : Given where
  verbose := verbose
  simulate := r.backend.simulate
  isInstance := r.isInstance
  library := r.backend.library
  simCores := r.backend.simCores
  kernel := some r.kernel
  name := r.name
  signature := signature
  dim := some r.dim
  args := r.args.toArray
  heapBytes := heapBytes
  repeats := repeats

section Describes

variable {verbose : Bool} {r : RunOptions} {signature : Option String} {heapBytes : Option UInt64}
  {repeats : Option UInt32}

lemma Describes.gives (h : Describes items verbose r)
    (hsignature : Fills SpellsText none (texts .signature items) signature)
    (hheapBytes : Fills SpellsSize none (texts .heapBytes items) heapBytes)
    (hrepeats : Fills SpellsCount none (texts .repeats items) repeats) :
    Gives {} items (r.given verbose signature heapBytes repeats) where
  known := h.known
  flags f := by
    cases f with
    | verbose => exact h.verbose
    | simulate => exact h.simulate
    | isInstance => exact h.isInstance
    | json | help | version =>
      rw [List.count_eq_zero.2 (mt (h.known _) (by decide))]
      exact .left
  opts o ho := by
    cases o with
    | library => exact h.library
    | simCores => exact h.simCores
    | kernel => exact h.kernel
    | name => exact h.name
    | signature => exact hsignature
    | dim => exact h.dim
    | heapBytes => exact hheapBytes
    | repeats => exact hrepeats
    | arg => exact absurd rfl ho
  args := h.args

lemma RunOptions.run_given (hsignature : r.signature = signature.getD "()V")
    (hheapBytes : r.heapBytes = heapBytes.getD 1048576) (hrepeats : r.repeats = repeats.getD 1) :
    (r.given verbose signature heapBytes repeats).run =
      if r.backend.simCores.isSome ∧ !r.backend.simulate then .error .missingArgument
      else .ok (.run r) := by
  rw [Given.run, Given.backend]
  split
  · rename_i hcores
    exact (if_pos hcores).symm
  · rename_i hcores
    refine Eq.trans ?_ (if_neg hcores).symm
    simp only [given, bind, Except.bind, pure, Except.pure, ← hsignature, ← hheapBytes,
      ← hrepeats]

/-- What the line of a run gives: its options as they are, and what is left out as left out. -/
lemma Describes.exists_given (h : Describes items verbose r) :
    ∃ g : Given, Given.ofWords .run (items.flatMap Item.words) = .ok g ∧ g.verbose = verbose ∧
      g.run = if r.backend.simCores.isSome ∧ !r.backend.simulate then .error .missingArgument
        else .ok (.run r) := by
  obtain ⟨signature, hsignature, hsignature'⟩ := h.signature
  obtain ⟨heapBytes, hheapBytes, hheapBytes'⟩ := h.heapBytes
  obtain ⟨repeats, hrepeats, hrepeats'⟩ := h.repeats
  have hscope : ∀ f, f ∈ runFlags → f ∈ Scope.run.flags := fun f => by cases f <;> decide
  have hgives := h.gives hsignature hheapBytes hrepeats
  exact ⟨_, Given.ofWords_items hgives.foldlM fun f hf => hscope f (h.known f hf), rfl,
    r.run_given hsignature' hheapBytes' hrepeats'⟩

end Describes

/-- The line of a run is read as the run, unless it asks for simulated cores alone. -/
lemma Describes.parse_eq {verbose : Bool} {r : RunOptions} (h : Describes items verbose r) :
    parse ("run" :: items.flatMap Item.words) =
      if r.backend.simCores.isSome ∧ !r.backend.simulate then .error .missingArgument
      else .ok ⟨verbose, .run r⟩ := by
  obtain ⟨g, hread, hverbose, hrun⟩ := h.exists_given
  rw [parse, parseFrom, if_neg (by decide), if_neg (by decide), if_pos rfl, hread]
  simp only [bind, Except.bind, hrun, hverbose]
  by_cases hcores : r.backend.simCores.isSome ∧ !r.backend.simulate
  · rw [if_pos hcores, if_pos hcores]
  · rw [if_neg hcores, if_neg hcores, Bool.false_or]
    rfl

/-- **Runs read back**: every run whose paths are not empty has its lines, and each line of a run is
read as that run, in whatever order its items stand and whatever words its arguments are; but a
number of simulated cores without the simulation is an argument missing. -/
theorem parse_run (verbose : Bool) (r : RunOptions) :
    ((∃ items, Describes items verbose r) ↔
      r.kernel ≠ "" ∧ ∀ path ∈ r.backend.library, path ≠ "") ∧
    ∀ items, Describes items verbose r →
      parse ("run" :: items.flatMap Item.words) =
        if r.backend.simCores.isSome ∧ !r.backend.simulate then .error .missingArgument
        else .ok ⟨verbose, .run r⟩ := by
  refine ⟨⟨?_, fun ⟨hkernel, hlibrary⟩ => ⟨_, describes_toItems verbose hkernel hlibrary⟩⟩,
    fun items h => h.parse_eq⟩
  rintro ⟨items, h⟩
  obtain ⟨text, hkernel⟩ := h.kernel.spelled
  refine ⟨hkernel.2, fun path hpath => ?_⟩
  have hlibrary := h.library
  rw [Option.mem_def.1 hpath] at hlibrary
  obtain ⟨text, hlibrary⟩ := hlibrary.spelled
  exact hlibrary.2

/-- Arguments that look like options, a path and numbers behind their equals signs, and a number of
cores with the simulation it asks for and without. -/
theorem parse_run_hyphened :
    let items (simulate : Bool) : List Item := flagItems .simulate simulate ++
      [.arg "--", .value .kernel "-k=.hsail", .arg "--dim", .arg "", .value .simCores "+08",
        .flag .verbose, .value .arg "-5", .value .dim "-64", .arg "-1"]
    let r (simulate : Bool) : RunOptions := {
      backend := ⟨simulate, none, some 8⟩
      kernel := "-k=.hsail"
      name := none
      signature := "()V"
      isInstance := false
      dim := -64
      args := ["--", "--dim", "", "-5", "-1"]
      heapBytes := 1048576
      repeats := 1 }
    (∀ simulate, Describes (items simulate) true (r simulate)) ∧
    parse ["run", "--simulate", "--arg", "--", "--kernel=-k=.hsail", "--arg", "--dim", "--arg", "",
      "--sim-cores=+08", "--verbose", "--arg=-5", "--dim=-64", "--arg", "-1"] =
      .ok ⟨true, .run (r true)⟩ ∧
    parse ["run", "--arg", "--", "--kernel=-k=.hsail", "--arg", "--dim", "--arg", "",
      "--sim-cores=+08", "--verbose", "--arg=-5", "--dim=-64", "--arg", "-1"] =
      .error .missingArgument := by
  intro items r
  have hcores : Text.Signed 8 ['+', '0', '8'] :=
    .unsigned (.mk (.inr rfl) ⟨⟨by decide, List.all_eq_true.1 (by decide)⟩, by decide⟩)
  have hdim : Text.Signed (-64) ['-', '6', '4'] :=
    .minus (n := 64) ⟨⟨by decide, List.all_eq_true.1 (by decide)⟩, by decide⟩
  have hdescribes : ∀ simulate, Describes (items simulate) true (r simulate) := fun simulate => {
    known := by cases simulate <;> simp [items, flagItems, runFlags]
    verbose := by cases simulate <;> exact .raised rfl
    simulate := by
      cases simulate with
      | false => exact .left
      | true => exact .raised rfl
    isInstance := by cases simulate <;> exact .left
    library := by cases simulate <;> exact .left
    simCores := by cases simulate <;> exact .given rfl hcores
    kernel := by cases simulate <;> exact .given rfl ⟨rfl, by decide⟩
    name := by cases simulate <;> exact .left
    signature := ⟨none, by cases simulate <;> exact .left, rfl⟩
    dim := by cases simulate <;> exact .given rfl hdim
    heapBytes := ⟨none, by cases simulate <;> exact .left, rfl⟩
    repeats := ⟨none, by cases simulate <;> exact .left, rfl⟩
    args := by cases simulate <;> rfl }
  exact ⟨hdescribes, (parse_run true (r true)).2 _ (hdescribes true),
    (parse_run true (r false)).2 _ (hdescribes false)⟩

end Offload.Command
