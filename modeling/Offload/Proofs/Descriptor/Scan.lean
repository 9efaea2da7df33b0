import Offload.Proofs.Descriptor.Grammar

/-!
The scan of a descriptor against the grammar.

A field type is scanned in the same way among the parameters and at the result, so both are one
`Place`. Every statement is about what a scan comes to on a text that may go on: it leaves a
place filled exactly when a field type stands at the front of the text.
-/

namespace Offload.Descriptor

namespace Scan

variable (s : Scan)

/-- What a scan comes to that has this text still before it. -/
def outcome (cs : List Char) : Except Flaw (List Kind × Option Kind) := (s.run cs).bind close

@[simp] lemma outcome_nil : s.outcome [] = s.close := rfl

lemma outcome_cons (c : Char) (cs : List Char) :
    s.outcome (c :: cs) = (s.step c).bind (·.outcome cs) := by
  rw [outcome, run_cons]
  cases s.step c <;> rfl

lemma outcome_cons_of_step {s s' : Scan} {c : Char} (h : s.step c = .ok s') (cs : List Char) :
    s.outcome (c :: cs) = s'.outcome cs := by
  rw [outcome_cons, h]
  rfl

end Scan

/-- Where a field type can stand. -/
inductive Place
  | param (seen : List Kind)
  | result (params : List Kind)

namespace Place

/-- The scan within a field type that stands here. -/
def scan : Place → Field → Scan
  | param seen, field => .parameters seen field
  | result params, field => .result params field

/-- The scan behind a field type of this kind. -/
def filled : Place → Kind → Scan
  | param seen, k => .parameters (k :: seen) .fresh
  | result params, k => .finished params (some k)

variable (p : Place)

/-- Within a field type the place does not matter; only its first character could end the list of
parameters or be the mark of a void result. -/
lemma step_scan {field : Field} {c : Char} (h : field = .fresh → c ≠ ')' ∧ c ≠ 'V') :
    (p.scan field).step c = (field.step c).map (Sum.elim p.filled p.scan) := by
  cases p with
  | param seen =>
    have hc : ¬ (field = .fresh ∧ c = ')') := fun hc => (h hc.1).1 hc.2
    simp only [scan, Scan.step, if_neg hc]
    congr 1
    funext x
    cases x <;> rfl
  | result params =>
    have hc : ¬ (field = .fresh ∧ c = 'V') := fun hc => (h hc.1).2 hc.2
    simp only [scan, Scan.step, if_neg hc]
    congr 1
    funext x
    cases x <;> rfl

lemma outcome_of_goes_on {field next : Field} {c : Char} (h : field = .fresh → c ≠ ')' ∧ c ≠ 'V')
    (hs : field.step c = .ok (.inr next)) (cs : List Char) :
    (p.scan field).outcome (c :: cs) = (p.scan next).outcome cs :=
  Scan.outcome_cons_of_step (by rw [p.step_scan h, hs]; rfl) cs

lemma outcome_of_ends {field : Field} {k : Kind} {c : Char} (h : field = .fresh → c ≠ ')' ∧ c ≠ 'V')
    (hs : field.step c = .ok (.inl k)) (cs : List Char) :
    (p.scan field).outcome (c :: cs) = (p.filled k).outcome cs :=
  Scan.outcome_cons_of_step (by rw [p.step_scan h, hs]; rfl) cs

end Place

/-! ### Names -/

lemma className_step {started : Bool} {c : Char} (h : c ≠ ';') :
    (Field.className started).step c = .ok (.inr (.className true)) := by
  unfold Field.step
  split <;> simp_all

variable (p : Place)

lemma outcome_name {started : Bool} {name : List Char} (hn : ';' ∉ name)
    (hne : started = false → name ≠ []) (rest : List Char) :
    (p.scan (.className started)).outcome (name ++ ';' :: rest) =
      (p.filled .object).outcome rest := by
  induction name generalizing started with
  | nil =>
    cases started with
    | false => exact absurd rfl (hne rfl)
    | true => exact p.outcome_of_ends (by simp) rfl rest
  | cons c name ih =>
    have hc : c ≠ ';' := fun hc => hn (hc ▸ List.mem_cons_self)
    rw [List.cons_append, p.outcome_of_goes_on (by simp) (className_step hc)]
    exact ih (fun hm => hn (List.mem_cons_of_mem _ hm)) (by simp)

/-- A name ends at its first mark, and an empty one is refused. -/
lemma exists_name_of_outcome {started : Bool} {cs : List Char} {out : List Kind × Option Kind}
    (h : (p.scan (.className started)).outcome cs = .ok out) :
    ∃ name rest, cs = name ++ ';' :: rest ∧ ';' ∉ name ∧ (started = false → name ≠ []) ∧
      (p.filled .object).outcome rest = .ok out := by
  induction cs generalizing started with
  | nil => cases p <;> simp [Place.scan, Scan.close, Field.flawAtEnd] at h
  | cons c cs ih =>
    by_cases hc : c = ';'
    · subst hc
      cases started with
      | false =>
        rw [Scan.outcome_cons, p.step_scan (by simp)] at h
        exact absurd h (by simp [Field.step, Except.map, Except.bind])
      | true =>
        rw [p.outcome_of_ends (by simp) (k := .object) rfl] at h
        exact ⟨[], cs, rfl, by simp, by simp, h⟩
    · rw [p.outcome_of_goes_on (by simp) (className_step hc)] at h
      obtain ⟨name, rest, rfl, hn, -, hout⟩ := ih h
      exact ⟨c :: name, rest, rfl, by simpa [hn] using Ne.symm hc, by simp, hout⟩

/-! ### Field types -/

/-- At the first character of a field type, or of the elements of an array. -/
def Field.front (marked : Bool) : Field := if marked then .array else .fresh

def FieldType.kindBehind (t : FieldType) (marked : Bool) : Kind :=
  if marked then .object else t.kind

lemma front_step_letter (marked : Bool) (b : Basic) :
    (Field.front marked).step b.letter =
      .ok (.inl ((FieldType.basic b).kindBehind marked)) := by
  cases marked <;> cases b <;> rfl

lemma front_step_name (marked : Bool) :
    (Field.front marked).step 'L' = .ok (.inr (.className false)) := by
  cases marked <;> rfl

lemma front_step_mark (marked : Bool) :
    (Field.front marked).step '[' = .ok (.inr (.front true)) := by
  cases marked <;> rfl

lemma basicKind?_eq_some {c : Char} {k : Kind} (h : basicKind? c = some k) :
    ∃ b : Basic, c = b.letter := by
  unfold basicKind? at h
  split at h
  · exact ⟨.boolean, rfl⟩
  · exact ⟨.byte, rfl⟩
  · exact ⟨.short, rfl⟩
  · exact ⟨.char, rfl⟩
  · exact ⟨.int, rfl⟩
  · exact ⟨.long, rfl⟩
  · exact ⟨.float, rfl⟩
  · exact ⟨.double, rfl⟩
  · simp at h

/-- Nothing but a field type goes on from the front of one. -/
lemma front_step_ok {marked : Bool} {c : Char} {x : Kind ⊕ Field}
    (h : (Field.front marked).step c = .ok x) :
    c = 'L' ∨ c = '[' ∨ ∃ b : Basic, c = b.letter := by
  by_cases hname : c = 'L'
  · exact .inl hname
  by_cases hmark : c = '['
  · exact .inr (.inl hmark)
  rcases hk : basicKind? c with _ | k
  · by_cases hvoid : c = 'V'
    · cases marked <;> simp [Field.front, Field.step, hvoid] at h
    · cases marked <;> simp [Field.front, Field.step, hname, hmark, hvoid, hk] at h
  · exact .inr (.inr (basicKind?_eq_some hk))

/-- **Completeness** for field types: the text of one fills the place. -/
lemma outcome_text (t : FieldType) (marked : Bool) (rest : List Char) :
    (p.scan (.front marked)).outcome (t.text ++ rest) =
      (p.filled (t.kindBehind marked)).outcome rest := by
  induction t generalizing marked with
  | basic b =>
    refine p.outcome_of_ends (fun _ => ?_) (front_step_letter marked b) rest
    cases b <;> decide
  | named c =>
    simp only [FieldType.text, List.cons_append, List.append_assoc, List.nil_append]
    rw [p.outcome_of_goes_on (by simp) (front_step_name marked)]
    have hk : (FieldType.named c).kindBehind marked = .object := by cases marked <;> rfl
    rw [hk]
    exact outcome_name p c.noSemicolon (fun _ => c.ne_nil) rest
  | array t ih =>
    simp only [FieldType.text, List.cons_append]
    rw [p.outcome_of_goes_on (by simp) (front_step_mark marked), ih]
    cases marked <;> rfl

/-- **Soundness** for field types: a place is filled by the text of one only. -/
lemma exists_text_of_outcome (marked : Bool) {cs : List Char} {out : List Kind × Option Kind}
    (hfront : marked = false → ∀ c, cs.head? = some c → c ≠ ')' ∧ c ≠ 'V')
    (h : (p.scan (.front marked)).outcome cs = .ok out) :
    ∃ (t : FieldType) (rest : List Char), cs = t.text ++ rest ∧
      (p.filled (t.kindBehind marked)).outcome rest = .ok out := by
  induction cs generalizing marked with
  | nil => cases p <;> simp [Place.scan, Scan.close] at h
  | cons c cs ih =>
    have hc : Field.front marked = .fresh → c ≠ ')' ∧ c ≠ 'V' := by
      intro hf
      cases marked with
      | false => exact hfront rfl c rfl
      | true => simp [Field.front] at hf
    have hstep : ∃ x, (Field.front marked).step c = .ok x := by
      rw [Scan.outcome_cons, p.step_scan hc] at h
      rcases hx : (Field.front marked).step c with e | x
      · simp [hx, Except.map, Except.bind] at h
      · exact ⟨x, rfl⟩
    obtain ⟨x, hx⟩ := hstep
    rcases front_step_ok hx with rfl | rfl | ⟨b, rfl⟩
    · rw [p.outcome_of_goes_on hc (front_step_name marked)] at h
      obtain ⟨name, rest, rfl, hn, hne, hout⟩ := exists_name_of_outcome p h
      refine ⟨.named ⟨name, hne rfl, hn⟩, rest, by simp [FieldType.text], ?_⟩
      cases marked <;> exact hout
    · rw [p.outcome_of_goes_on hc (front_step_mark marked)] at h
      obtain ⟨t, rest, rfl, hout⟩ := ih true (by simp) h
      refine ⟨.array t, rest, rfl, ?_⟩
      cases marked <;> exact hout
    · rw [p.outcome_of_ends hc (front_step_letter marked b)] at h
      exact ⟨.basic b, cs, rfl, h⟩

/-! ### Descriptors -/

lemma outcome_closing (seen : List Kind) (cs : List Char) :
    (Scan.parameters seen .fresh).outcome (')' :: cs) =
      (Scan.result seen.reverse .fresh).outcome cs :=
  Scan.outcome_cons_of_step rfl cs

lemma outcome_params (ts : List FieldType) (seen : List Kind) (rest : List Char) :
    (Scan.parameters seen .fresh).outcome (ts.flatMap FieldType.text ++ ')' :: rest) =
      (Scan.result (seen.reverse ++ ts.map FieldType.kind) .fresh).outcome rest := by
  induction ts generalizing seen with
  | nil => simpa using outcome_closing seen rest
  | cons t ts ih =>
    have ht := outcome_text (.param seen) t false (ts.flatMap FieldType.text ++ ')' :: rest)
    rw [List.flatMap_cons, List.append_assoc]
    refine ht.trans ((ih (t.kind :: seen)).trans ?_)
    simp

lemma exists_params_of_outcome {seen : List Kind} {cs : List Char} {out : List Kind × Option Kind}
    (h : (Scan.parameters seen .fresh).outcome cs = .ok out) :
    ∃ (ts : List FieldType) (rest : List Char), cs = ts.flatMap FieldType.text ++ ')' :: rest ∧
      (Scan.result (seen.reverse ++ ts.map FieldType.kind) .fresh).outcome rest = .ok out := by
  induction hn : cs.length using Nat.strongRecOn generalizing cs seen with
  | _ n ih =>
    rcases cs with _ | ⟨c, cs⟩
    · simp [Scan.close] at h
    by_cases hc : c = ')'
    · subst hc
      rw [outcome_closing] at h
      exact ⟨[], cs, rfl, by simpa using h⟩
    have hV : c ≠ 'V' := by
      rintro rfl
      rw [Scan.outcome_cons] at h
      exact absurd h (by simp [Scan.step, Field.step, Except.map, Except.bind])
    obtain ⟨t, rest, ht, hout⟩ := exists_text_of_outcome (.param seen) false
      (fun _ d hd => by rw [← Option.some.inj hd]; exact ⟨hc, hV⟩) h
    have hlt : rest.length < n := by
      obtain ⟨d, ds, hd, -⟩ := text_head t
      rw [← hn, ht, hd]
      simp only [List.cons_append, List.length_cons, List.length_append]
      omega
    obtain ⟨ts, rest', rfl, hout'⟩ := ih rest.length hlt hout rfl
    refine ⟨t :: ts, rest', by rw [ht]; simp, ?_⟩
    simpa [FieldType.kindBehind] using hout'

lemma outcome_finished {params : List Kind} {returns : Option Kind} {cs : List Char}
    {out : List Kind × Option Kind} :
    (Scan.finished params returns).outcome cs = .ok out ↔ cs = [] ∧ out = (params, returns) := by
  cases cs with
  | nil => simp [Scan.close, eq_comm]
  | cons c cs => simp [Scan.outcome_cons, Scan.step, Except.bind]

lemma outcome_result {params : List Kind} {cs : List Char} {out : List Kind × Option Kind} :
    (Scan.result params .fresh).outcome cs = .ok out ↔
      ∃ r : Option FieldType, cs = (r.map FieldType.text).getD ['V'] ∧
        out = (params, r.map FieldType.kind) := by
  have hvoid (cs : List Char) : (Scan.result params .fresh).outcome ('V' :: cs) =
      (Scan.finished params none).outcome cs := Scan.outcome_cons_of_step rfl cs
  constructor
  · intro h
    rcases cs with _ | ⟨c, cs⟩
    · simp [Scan.close] at h
    by_cases hV : c = 'V'
    · subst hV
      rw [hvoid, outcome_finished] at h
      exact ⟨none, by simp [h.1], h.2⟩
    have hc : c ≠ ')' := by
      rintro rfl
      rw [Scan.outcome_cons] at h
      exact absurd h (by simp [Scan.step, Field.step, basicKind?, Except.map, Except.bind])
    obtain ⟨t, rest, ht, hout⟩ := exists_text_of_outcome (.result params) false
      (fun _ d hd => by rw [← Option.some.inj hd]; exact ⟨hc, hV⟩) h
    obtain ⟨rfl, rfl⟩ := outcome_finished.1 hout
    exact ⟨some t, by simpa using ht, rfl⟩
  · rintro ⟨r, rfl, rfl⟩
    cases r with
    | none => exact (hvoid []).trans (outcome_finished.2 ⟨rfl, rfl⟩)
    | some t =>
      have ht := outcome_text (.result params) t false []
      rw [List.append_nil] at ht
      exact ht.trans (outcome_finished.2 ⟨rfl, rfl⟩)

/-- A text is a descriptor exactly when a tree has it, and the scan finds the kinds of the tree. -/
theorem parse_eq_ok_iff {cs : List Char} {out : List Kind × Option Kind} :
    parse cs = .ok out ↔ ∃ m : MethodType, m.text = cs ∧ m.kinds = out := by
  have hopen (cs : List Char) : Scan.start.outcome ('(' :: cs) =
      (Scan.parameters [] .fresh).outcome cs := Scan.outcome_cons_of_step rfl cs
  change Scan.start.outcome cs = .ok out ↔ _
  constructor
  · intro h
    rcases cs with _ | ⟨c, cs⟩
    · simp [Scan.close] at h
    have hc : c = '(' := by
      by_contra hc
      rw [Scan.outcome_cons] at h
      simp [Scan.step, hc, Except.bind] at h
    subst hc
    rw [hopen] at h
    obtain ⟨ts, rest, rfl, hout⟩ := exists_params_of_outcome h
    obtain ⟨r, rfl, rfl⟩ := outcome_result.1 hout
    exact ⟨⟨ts, r⟩, rfl, rfl⟩
  · rintro ⟨m, rfl, rfl⟩
    refine (hopen _).trans ((outcome_params m.params [] m.resultText).trans ?_)
    exact outcome_result.2 ⟨m.result, rfl, rfl⟩

end Offload.Descriptor

namespace Offload.Signature

open Descriptor

lemma parse_eq_ok_iff {s : String} {isStatic : Bool} {sig : Signature} :
    parse s isStatic = .ok sig ↔ ∃ m : MethodType, m.text = s.toList ∧
      sig = ⟨m.params.map FieldType.kind, !isStatic, m.result.map FieldType.kind⟩ := by
  unfold parse
  constructor
  · intro h
    rcases hp : Descriptor.parse s.toList with e | out
    · simp [hp, Except.map] at h
    · obtain ⟨m, hm, rfl⟩ := Descriptor.parse_eq_ok_iff.1 hp
      rw [hp] at h
      exact ⟨m, hm, (Except.ok.inj h).symm⟩
  · rintro ⟨m, hm, rfl⟩
    rw [Descriptor.parse_eq_ok_iff.2 ⟨m, hm, rfl⟩]
    rfl

/-- **The descriptor grammar.** A text is a signature exactly when it is the text of a method
type; that type is the only one with this text, and it determines the slots. -/
theorem parse_iff_methodType (s : String) (isStatic : Bool) :
    ((∃ sig, parse s isStatic = .ok sig) ↔ ∃ m : MethodType, m.text = s.toList) ∧
    ∀ m : MethodType, m.text = s.toList →
      (∀ m' : MethodType, m'.text = s.toList → m' = m) ∧
      ∃ sig, parse s isStatic = .ok sig ∧
        sig.params = m.params.map FieldType.kind ∧
        sig.returns = m.result.map FieldType.kind ∧
        sig.hasReceiver = !isStatic ∧
        sig.slots = (if isStatic then [] else [Kind.object]) ++ sig.params ∧
        sig.slots.length = sig.arity := by
  refine ⟨⟨?_, ?_⟩, fun m hm => ⟨?_, ?_⟩⟩
  · rintro ⟨sig, h⟩
    obtain ⟨m, hm, -⟩ := parse_eq_ok_iff.1 h
    exact ⟨m, hm⟩
  · rintro ⟨m, hm⟩
    exact ⟨_, parse_eq_ok_iff.2 ⟨m, hm, rfl⟩⟩
  · intro m' hm'
    exact MethodType.text_injective (hm'.trans hm.symm)
  · refine ⟨_, parse_eq_ok_iff.2 ⟨m, hm, rfl⟩, rfl, rfl, rfl, ?_, length_slots _⟩
    cases isStatic <;> rfl

/-- An instance method with a class name that holds a parenthesis, and arrays of arrays. -/
theorem parse_methodType_nested :
    let m : MethodType := ⟨[.basic .int, .named ⟨"a)[/B".toList, by decide, by decide⟩,
      .array (.array (.basic .long))], none⟩
    m.text = "(ILa)[/B;[[J)V".toList ∧
      ∃ sig, parse "(ILa)[/B;[[J)V" false = .ok sig ∧
        sig.slots = [.object, .int, .object, .object] := by
  intro m
  have hm : m.text = "(ILa)[/B;[[J)V".toList := by decide
  obtain ⟨sig, hsig, hparams, -, -, hslots, -⟩ := ((parse_iff_methodType _ false).2 m hm).2
  exact ⟨hm, sig, hsig, by rw [hslots, hparams]; rfl⟩

end Offload.Signature
