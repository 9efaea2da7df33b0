import Mathlib.Data.List.Basic
import Mathlib.Tactic.Common
import Offload.Signature

/-!
The grammar of method descriptors, as syntax trees with the text of each.

The scan is compared with the trees in both directions: it accepts the text of every tree, and
what it accepts is the text of a tree. A text belongs to one tree only.
-/

namespace Offload.Descriptor

/-- The types that a single letter stands for. -/
inductive Basic
  | boolean
  | byte
  | short
  | char
  | int
  | long
  | float
  | double
  deriving DecidableEq, Repr

def Basic.letter : Basic → Char
  | .boolean => 'Z'
  | .byte => 'B'
  | .short => 'S'
  | .char => 'C'
  | .int => 'I'
  | .long => 'J'
  | .float => 'F'
  | .double => 'D'

def Basic.kind : Basic → Kind
  | .boolean => .boolean
  | .byte => .byte
  | .short => .short
  | .char => .char
  | .int => .int
  | .long => .long
  | .float => .float
  | .double => .double

/-- Any text but the empty one that does not hold the mark ending a name; it may hold the marks of
other types and the closing parenthesis. -/
structure ClassName where
  chars : List Char
  ne_nil : chars ≠ []
  noSemicolon : ';' ∉ chars
  deriving DecidableEq

inductive FieldType
  | basic (b : Basic)
  | named (c : ClassName)
  | array (element : FieldType)
  deriving DecidableEq

namespace FieldType

def text : FieldType → List Char
  | basic b => [b.letter]
  | named c => 'L' :: (c.chars ++ [';'])
  | array t => '[' :: t.text

def kind : FieldType → Kind
  | basic b => b.kind
  | named _ => .object
  | array _ => .object

end FieldType

structure MethodType where
  params : List FieldType
  /-- No type stands for a void result. -/
  result : Option FieldType
  deriving DecidableEq

namespace MethodType

variable (m : MethodType)

def resultText : List Char := (m.result.map FieldType.text).getD ['V']

def text : List Char := '(' :: (m.params.flatMap FieldType.text ++ ')' :: m.resultText)

/-- What a scan of the text is to find. -/
def kinds : List Kind × Option Kind := (m.params.map FieldType.kind, m.result.map FieldType.kind)

end MethodType

/-! ### One tree for a text -/

lemma letter_injective : Function.Injective Basic.letter := by
  intro a b h
  cases a <;> cases b <;> first | rfl | exact absurd h (by decide)

/-- What a field type does not begin with. -/
lemma text_head (t : FieldType) : ∃ c cs, t.text = c :: cs ∧ c ≠ ')' ∧ c ≠ 'V' := by
  cases t with
  | basic b => exact ⟨_, _, rfl, by cases b <;> decide, by cases b <;> decide⟩
  | named c => exact ⟨_, _, rfl, by decide, by decide⟩
  | array t => exact ⟨_, _, rfl, by decide, by decide⟩

lemma name_append_inj {n n' r r' : List Char} (hn : ';' ∉ n) (hn' : ';' ∉ n')
    (h : n ++ ';' :: r = n' ++ ';' :: r') : n = n' ∧ r = r' := by
  induction n generalizing n' with
  | nil =>
    cases n' with
    | nil => exact ⟨rfl, (List.cons.inj h).2⟩
    | cons c n' =>
      have hc : ';' = c := (List.cons.inj h).1
      exact absurd (hc ▸ List.mem_cons_self) hn'
  | cons c n ih =>
    cases n' with
    | nil =>
      have hc : c = ';' := (List.cons.inj h).1
      exact absurd (hc ▸ List.mem_cons_self) hn
    | cons c' n' =>
      obtain ⟨hc, htail⟩ := List.cons.inj h
      have hm : ';' ∉ n := fun hm => hn (List.mem_cons_of_mem _ hm)
      have hm' : ';' ∉ n' := fun hm => hn' (List.mem_cons_of_mem _ hm)
      obtain ⟨hnn, hr⟩ := ih hm hm' htail
      exact ⟨by rw [hc, hnn], hr⟩

/-- A field type determines where it ends in a longer text. -/
lemma text_append_inj {t t' : FieldType} {r r' : List Char} (h : t.text ++ r = t'.text ++ r') :
    t = t' ∧ r = r' := by
  induction t generalizing t' with
  | basic b =>
    cases t' with
    | basic b' =>
      obtain ⟨hb, hr⟩ := List.cons.inj h
      exact ⟨by rw [letter_injective hb], hr⟩
    | named c' => cases b <;> exact absurd (List.cons.inj h).1 (by decide)
    | array t' => cases b <;> exact absurd (List.cons.inj h).1 (by decide)
  | named c =>
    cases t' with
    | basic b' => cases b' <;> exact absurd (List.cons.inj h).1 (by decide)
    | named c' =>
      have hn : c.chars ++ ';' :: r = c'.chars ++ ';' :: r' := by
        simpa [FieldType.text] using h
      obtain ⟨hc, hr⟩ := name_append_inj c.noSemicolon c'.noSemicolon hn
      obtain ⟨chars, _, _⟩ := c
      subst hc
      exact ⟨rfl, hr⟩
    | array t' => exact absurd (List.cons.inj h).1 (by decide)
  | array t ih =>
    cases t' with
    | basic b' => cases b' <;> exact absurd (List.cons.inj h).1 (by decide)
    | named c' => exact absurd (List.cons.inj h).1 (by decide)
    | array t' =>
      obtain ⟨rfl, hr⟩ := ih (List.cons.inj h).2
      exact ⟨rfl, hr⟩

lemma params_append_inj {ts ts' : List FieldType} {r r' : List Char}
    (h : ts.flatMap FieldType.text ++ ')' :: r = ts'.flatMap FieldType.text ++ ')' :: r') :
    ts = ts' ∧ r = r' := by
  induction ts generalizing ts' with
  | nil =>
    cases ts' with
    | nil => exact ⟨rfl, (List.cons.inj h).2⟩
    | cons t' ts' =>
      obtain ⟨c, cs, ht, hc, -⟩ := text_head t'
      simp only [List.flatMap_nil, List.nil_append, List.flatMap_cons, ht, List.cons_append] at h
      exact absurd (List.cons.inj h).1.symm hc
  | cons t ts ih =>
    cases ts' with
    | nil =>
      obtain ⟨c, cs, ht, hc, -⟩ := text_head t
      simp only [List.flatMap_nil, List.nil_append, List.flatMap_cons, ht, List.cons_append] at h
      exact absurd (List.cons.inj h).1 hc
    | cons t' ts' =>
      simp only [List.flatMap_cons, List.append_assoc] at h
      obtain ⟨ht, htail⟩ := text_append_inj h
      obtain ⟨hts, hr⟩ := ih htail
      exact ⟨by rw [ht, hts], hr⟩

lemma result_inj {a b : Option FieldType}
    (h : (a.map FieldType.text).getD ['V'] = (b.map FieldType.text).getD ['V']) : a = b := by
  cases a with
  | none =>
    cases b with
    | none => rfl
    | some t =>
      obtain ⟨c, cs, ht, -, hc⟩ := text_head t
      simp only [Option.map_none, Option.getD_none, Option.map_some, Option.getD_some, ht] at h
      exact absurd (List.cons.inj h).1.symm hc
  | some t =>
    cases b with
    | none =>
      obtain ⟨c, cs, ht, -, hc⟩ := text_head t
      simp only [Option.map_none, Option.getD_none, Option.map_some, Option.getD_some, ht] at h
      exact absurd (List.cons.inj h).1 hc
    | some t' =>
      simp only [Option.map_some, Option.getD_some] at h
      have h' : t.text ++ [] = t'.text ++ [] := by simpa using h
      rw [(text_append_inj h').1]

theorem MethodType.text_injective : Function.Injective MethodType.text := by
  intro m m' h
  obtain ⟨hp, hr⟩ := params_append_inj (List.cons.inj h).2
  cases m
  cases m'
  cases hp
  cases result_inj hr
  rfl

end Offload.Descriptor
