import Offload.Fault
import Offload.Proofs.Descriptor.Scan

/-!
What the flaw of a text says of the texts that it begins.

A scan that has not yet failed can always be brought to an end: a field type that has begun is
finished, the list of parameters is closed and a result follows. So a text that only stops too soon
begins a descriptor, and the flaw of a step is the flaw of every longer text.
-/

namespace Offload.Descriptor

/-- Whether a flaw is that of a text which stops too soon. -/
def Flaw.isUnfinished : Flaw → Bool
  | .noClosing | .noResult | .openClass | .cutShort => true
  | _ => false

/-! ### Flaws of steps and flaws at the end -/

lemma Field.isUnfinished_of_step {field : Field} {c : Char} {f : Flaw}
    (h : field.step c = .error f) : f.isUnfinished = false := by
  unfold Field.step at h
  split at h
  · cases h
  · exact Except.error.inj h ▸ rfl
  · cases h
  · rcases hk : basicKind? c with _ | k
    · rw [hk] at h
      split_ifs at h <;> exact Except.error.inj h ▸ rfl
    · rw [hk] at h
      split_ifs at h
      exact Except.error.inj h ▸ rfl

namespace Scan

variable {s : Scan} {cs : List Char} {f : Flaw}

/-- What reading comes to: a flaw of what was read, never of what is missing, or a scan that has
left the start. -/
def Progress : Except Flaw Scan → Prop
  | .error f => f.isUnfinished = false
  | .ok s => s ≠ .start

lemma progress_map {field : Field} {c : Char} {next : Kind ⊕ Field → Scan}
    (hnext : ∀ x, next x ≠ .start) : Progress ((field.step c).map next) := by
  rcases hx : field.step c with f | x
  · exact Field.isUnfinished_of_step hx
  · exact hnext x

lemma progress_step (s : Scan) (c : Char) : Progress (s.step c) := by
  cases s with
  | start =>
    rw [Scan.step]
    split_ifs
    · exact Scan.noConfusion
    · rfl
  | parameters seen field =>
    rw [Scan.step]
    split_ifs
    · exact Scan.noConfusion
    · exact progress_map fun x => by cases x <;> exact Scan.noConfusion
  | result params field =>
    rw [Scan.step]
    split_ifs
    · exact Scan.noConfusion
    · exact progress_map fun x => by cases x <;> exact Scan.noConfusion
  | finished params returns => rfl

lemma progress_run (hcs : cs ≠ []) (s : Scan) : Progress (s.run cs) := by
  induction cs generalizing s with
  | nil => exact absurd rfl hcs
  | cons c cs ih =>
    rw [run_cons]
    rcases hs : s.step c with f | s'
    · have hprogress := progress_step s c
      rwa [hs] at hprogress
    · rcases cs with _ | ⟨d, ds⟩
      · have hprogress := progress_step s c
        rwa [hs] at hprogress
      · exact ih (by simp) s'

lemma isUnfinished_of_close (hs : s ≠ .start) (h : s.close = .error f) :
    f.isUnfinished = true := by
  cases s with
  | start => exact absurd rfl hs
  | parameters seen field => cases field <;> exact Except.error.inj h ▸ rfl
  | result params field => cases field <;> exact Except.error.inj h ▸ rfl
  | finished params returns => cases h

end Scan

/-! ### Completions -/

/-- What ends a field type that has come this far. -/
def Field.completion : Field → List Char
  | .fresh | .array => ['I']
  | .className true => [';']
  | .className false => ['A', ';']

/-- What ends a descriptor that has come this far. -/
def Scan.completion : Scan → List Char
  | .start => ['(', ')', 'V']
  | .parameters _ field => field.completion ++ [')', 'V']
  | .result _ field => field.completion
  | .finished _ _ => []

/-- Wherever a field type stands and however far it has come, it can be finished. -/
lemma outcome_completion (p : Place) (field : Field) :
    ∃ k, ∀ rest, (p.scan field).outcome (field.completion ++ rest) =
      (p.filled k).outcome rest := by
  cases field with
  | fresh => exact ⟨_, fun rest => outcome_text p (.basic .int) false rest⟩
  | array => exact ⟨_, fun rest => outcome_text p (.basic .int) true rest⟩
  | className started =>
    refine ⟨.object, fun rest => ?_⟩
    cases started with
    | false => exact outcome_name p (show ';' ∉ ['A'] by decide) (by simp) rest
    | true => exact outcome_name p (show ';' ∉ [] by decide) (by simp) rest

/-- **Every scan can be completed**, wherever it stands. -/
lemma Scan.exists_outcome_completion (s : Scan) : ∃ out, s.outcome s.completion = .ok out := by
  have hvoid : ∀ params : List Kind, (Scan.result params .fresh).outcome ['V'] =
      .ok (params, none) := fun params => outcome_result.2 ⟨none, rfl, rfl⟩
  cases s with
  | start => exact ⟨([], none), rfl⟩
  | parameters seen field =>
    obtain ⟨k, hk⟩ := outcome_completion (.param seen) field
    exact ⟨_, (hk [')', 'V']).trans ((outcome_closing (k :: seen) ['V']).trans (hvoid _))⟩
  | result params field =>
    obtain ⟨k, hk⟩ := outcome_completion (.result params) field
    have hend := hk []
    rw [List.append_nil] at hend
    exact ⟨_, hend.trans (outcome_finished.2 ⟨rfl, rfl⟩)⟩
  | finished params returns => exact ⟨_, outcome_finished.2 ⟨rfl, rfl⟩⟩

/-! ### Longer texts -/

lemma parse_append (cs ds : List Char) :
    parse (cs ++ ds) = (Scan.start.run cs).bind fun s => s.outcome ds := by
  rw [parse, Scan.run_append]
  cases Scan.start.run cs <;> rfl

/-- **What a flaw says of longer texts**: with an unfinished one the text begins a descriptor, and
any other one is the flaw of every text that it begins. -/
lemma parse_eq_error {cs : List Char} (hcs : cs ≠ []) {f : Flaw} (h : parse cs = .error f) :
    f.isUnfinished = true ∧ (∃ ds out, parse (cs ++ ds) = .ok out) ∨
      f.isUnfinished = false ∧ ∀ ds, parse (cs ++ ds) = .error f := by
  have hprogress := Scan.progress_run hcs .start
  simp only [parse_append]
  rw [parse] at h
  generalize Scan.start.run cs = r at h hprogress ⊢
  rcases r with f' | s
  · obtain rfl := Except.error.inj h
    exact .inr ⟨hprogress, fun ds => rfl⟩
  · obtain ⟨out, hout⟩ := s.exists_outcome_completion
    exact .inl ⟨Scan.isUnfinished_of_close hprogress h, s.completion, out, hout⟩

end Offload.Descriptor

namespace Offload.Signature

open Descriptor

/-- What is said of a text that only stops too soon. -/
def unfinishedReasons : List String :=
  ["missing ')'", "missing return type", "unterminated class name", "unexpected end of descriptor"]

lemma message_mem_unfinishedReasons (f : Flaw) :
    f.message ∈ unfinishedReasons ↔ f.isUnfinished = true := by
  cases f <;> decide

variable {s : String} {isStatic : Bool}

lemma parse_eq_error_iff {f : Flaw} :
    parse s isStatic = .error f ↔ Descriptor.parse s.toList = .error f := by
  unfold parse
  cases Descriptor.parse s.toList <;> simp [Except.map]

/-- **Unfinished or wrong**: the fault of a text cites the text, and its reason is one of the
unfinished ones exactly when some longer text is a descriptor. With any other reason every longer
text is refused for the same one. -/
theorem parse_unfinished_iff {e : Fault} (hs : s ≠ "")
    (h : (parse s isStatic).mapError (Fault.ofFlaw s) = .error e) :
    ∃ reason, e = .invalidSignature s reason ∧
      (reason ∈ unfinishedReasons ↔ ∃ t sig, parse (s ++ t) isStatic = .ok sig) ∧
      (reason ∉ unfinishedReasons → ∀ t,
        (parse (s ++ t) isStatic).mapError (Fault.ofFlaw (s ++ t)) =
          .error (.invalidSignature (s ++ t) reason)) := by
  rcases hp : parse s isStatic with f | sig
  · rw [hp] at h
    obtain rfl := Except.error.inj h
    refine ⟨f.message, rfl, ?_⟩
    rw [message_mem_unfinishedReasons]
    have hcs : s.toList ≠ [] := fun hnil => hs (String.toList_eq_nil_iff.1 hnil)
    rcases parse_eq_error hcs (parse_eq_error_iff.1 hp) with ⟨hf, ds, out, hout⟩ | ⟨hf, hlonger⟩
    · refine ⟨iff_of_true hf ⟨String.ofList ds, ⟨out.1, !isStatic, out.2⟩, ?_⟩,
        fun hn => absurd hf hn⟩
      rw [parse, String.toList_append, String.toList_ofList, hout]
      rfl
    · have hrefused : ∀ t, parse (s ++ t) isStatic = .error f := fun t => by
        rw [parse_eq_error_iff, String.toList_append]
        exact hlonger t.toList
      refine ⟨iff_of_false (by simp [hf]) ?_, fun _ t => ?_⟩
      · rintro ⟨t, sig, hok⟩
        rw [hrefused t] at hok
        cases hok
      · rw [hrefused t]
        rfl
  · rw [hp] at h
    cases h

/-- A text that stops within a class name of an array begins a descriptor; one that has a void
parameter begins none. -/
theorem parse_unfinished_iff_array :
    (∃ t sig, parse ("(I[[LA" ++ t) false = .ok sig) ∧
      ∀ t, (parse ("(I[V" ++ t) false).mapError (Fault.ofFlaw ("(I[V" ++ t)) =
        .error (.invalidSignature ("(I[V" ++ t) "void is only valid as a return type") := by
  constructor
  · have hparse : (parse "(I[[LA" false).mapError (Fault.ofFlaw "(I[[LA") =
        .error (.invalidSignature "(I[[LA" "unterminated class name") := by decide +kernel
    obtain ⟨reason, he, hiff, -⟩ := parse_unfinished_iff (by decide) hparse
    rw [Fault.invalidSignature.injEq] at he
    exact hiff.1 (he.2 ▸ by decide)
  · have hparse : (parse "(I[V" false).mapError (Fault.ofFlaw "(I[V") =
        .error (.invalidSignature "(I[V" "void is only valid as a return type") := by
      decide +kernel
    obtain ⟨reason, he, -, hrefused⟩ := parse_unfinished_iff (by decide) hparse
    rw [Fault.invalidSignature.injEq] at he
    obtain ⟨-, rfl⟩ := he
    exact hrefused (by decide)

end Offload.Signature
