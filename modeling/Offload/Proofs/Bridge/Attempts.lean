import Offload.Proofs.Bridge.Lifecycle

/-!
How a bridge comes to its table, whatever its resolver answers from one attempt to the next.

While a bridge has no table, every operation that links begins with one attempt. An attempt that
fails is all that the operation does. The first that succeeds binds the table, and from then on
nothing is asked again.
-/

namespace Offload

open Simulator (EntryPoint Fleet)

/-! ### Between attempts -/

/-- Between two scenes nothing was asked, and the bridge came no nearer to a table. -/
structure Scene.Unasked (s s' : Scene) : Prop where
  resolver : s'.bridge.resolver = s.bridge.resolver
  attempts : s'.bridge.attempts = s.bridge.attempts
  table : s'.bridge.table = s.bridge.table
  queries : s'.queries = s.queries

namespace Scene.Unasked

variable {s s' s'' : Scene}

lemma refl (s : Scene) : s.Unasked s := ⟨rfl, rfl, rfl, rfl⟩

lemma trans (h : s.Unasked s') (h' : s'.Unasked s'') : s.Unasked s'' :=
  ⟨h'.resolver.trans h.resolver, h'.attempts.trans h.attempts, h'.table.trans h.table,
    h'.queries.trans h.queries⟩

lemma withHeap (s : Scene) (heap : Option Region) : s.Unasked (s.withHeap heap) := by
  unfold Scene.withHeap
  split
  · exact ⟨rfl, rfl, rfl, rfl⟩
  · exact .refl s

/-- What the device is asked to do and what is reported are not questions to the library. -/
lemma of_called (h : s.Unasked s') (fleet : Fleet) (notices : Array Notice) :
    s.Unasked { s' with fleet, notices } :=
  ⟨h.resolver, h.attempts, h.table, h.queries⟩

end Scene.Unasked

namespace Action

variable {β γ : Type}

/-- An action that asks nothing and leaves the table alone. -/
def Unasking (a : Action β) : Prop := ∀ s, a.Ends s fun _ s' => s.Unasked s'

lemma unasking_pure (b : β) : (pure b : Action β).Unasking :=
  fun s => ends_of_ok (pure_apply b s) (.refl s)

lemma unasking_throw (e : Fault) : (throw e : Action β).Unasking :=
  fun s => ends_of_error (throw_apply e s) (.refl s)

lemma unasking_get : (get : Action Scene).Unasking :=
  fun s => ends_of_ok (get_apply s) (.refl s)

lemma unasking_of_onDevice {a : Action β} {P : Scene → Fault → Prop}
    (h : ∀ s, a.OnDevice s (P s)) : a.Unasking := by
  refine fun s => Ends.mono (h s) fun r s' hr => ?_
  obtain ⟨hbridge, hqueries, -⟩ := hr
  exact ⟨by rw [hbridge], by rw [hbridge], by rw [hbridge], hqueries⟩

lemma Unasking.bind {a : Action β} {f : β → Action γ} (h : a.Unasking)
    (hf : ∀ b, (f b).Unasking) : (a >>= f).Unasking := by
  intro s
  refine Ends.bind ((h s).mono fun r s' hr => ?_)
  cases r with
  | ok b => exact (hf b s').mono fun _ _ hr' => hr.trans hr'
  | error e => exact hr

lemma Unasking.map {a : Action β} (h : a.Unasking) (f : β → γ) : (f <$> a).Unasking :=
  fun s => Ends.map (P := fun _ s' => s.Unasked s') f (h s)

end Action

namespace Bridge

open Offload.Action

variable {d : Device} {k : Kernel}

lemma requireDevice_unasking (operation : String) : (requireDevice operation).Unasking := by
  refine unasking_get.bind fun s => ?_
  rcases s.bridge.device with _ | _ | d
  · exact unasking_throw _
  · exact unasking_throw _
  · exact unasking_pure d

lemma createDevice_unasking (t : Table EntryPoint) : (createDevice t).Unasking := by
  intro s
  rcases hn : (s.fleet.createContext t.createContext).1.isNull
  · rcases hq : t.totalCores with _ | query
    · obtain ⟨notices, heq⟩ := createDevice_of_not_queried hn hq
      exact ends_of_ok heq ⟨rfl, rfl, rfl, rfl⟩
    · obtain ⟨notices, heq⟩ := createDevice_of_queried hn hq
      exact ends_of_ok heq ⟨rfl, rfl, rfl, rfl⟩
  · obtain ⟨notices, heq⟩ := createDevice_of_null hn
    exact ends_of_error heq ⟨rfl, rfl, rfl, rfl⟩

lemma registerOn_unasking (region : Region) : (registerOn d region).Unasking := by
  intro s
  rcases he : region.isEmpty
  · rcases ha : (s.fleet.registerHeap d.table.registerHeap region.base region.size).1
    · obtain ⟨notices, heq⟩ := registerOn_of_rejected he ha
      exact ends_of_error heq ((Scene.Unasked.withHeap s none).of_called _ _)
    · obtain ⟨notices, heq⟩ := registerOn_of_accepted he ha
      exact ends_of_ok heq ((Scene.Unasked.withHeap s _).of_called _ _)
  · exact ends_of_error (registerOn_of_isEmpty he) (.withHeap s none)

lemma loadOn_unasking (code : Code) : (loadOn d code).Unasking :=
  unasking_of_onDevice (loadOn_onDevice code)

lemma launchOn_unasking (dim : Int32) (args : List Value) (signature : Signature) :
    (launchOn d k dim args signature).Unasking :=
  unasking_of_onDevice (launchOn_onDevice dim args signature)

/-- What is left of connecting once there is a table. -/
def settle (t : Table EntryPoint) : Action Device := do
  match (← get).bridge.device with
  | .ready d => return d
  | .unavailable => throw .context
  | .undecided => createDevice t

lemma connect_eq_settle : connect = ensureTable >>= settle := rfl

lemma settle_unasking (t : Table EntryPoint) : (settle t).Unasking := by
  refine unasking_get.bind fun s => ?_
  rcases s.bridge.device with _ | _ | d
  · exact createDevice_unasking t
  · exact unasking_throw _
  · exact unasking_pure d

lemma offload_eq_provide {request : Request} (h : 0 < request.dim) (heap : Region) :
    offload request heap = connect >>= fun d => provide d request heap := by
  funext s
  rw [offload_of_range (Range.of_pos h), bind_apply]
  cases connect s <;> rfl

lemma provide_unasking (request : Request) (heap : Region) : (provide d request heap).Unasking := by
  have hserve : (serve d request).Unasking :=
    (loadOn_unasking request.code).bind fun _ =>
      (launchOn_unasking _ _ _).bind fun _ => unasking_pure ()
  unfold provide
  split
  · exact (registerOn_unasking heap).bind fun _ => hserve
  · exact hserve

end Bridge

/-! ### One operation -/

namespace Operation

open Bridge Offload.Action

variable {o : Operation} {s : Scene}

lemma unasking_of_not_links (h : o.links = false) : o.action.Unasking := by
  cases o with
  | link => simp [links] at h
  | connect => simp [links] at h
  | totalCores =>
    exact ((requireDevice_unasking _).bind fun d => unasking_pure d.cores).map _
  | registerHeap region =>
    exact ((requireDevice_unasking _).bind fun _ => registerOn_unasking region).map _
  | loadKernel code =>
    exact ((requireDevice_unasking _).bind fun _ => loadOn_unasking code).map _
  | launch k dim args signature =>
    refine Unasking.map (fun s => ?_) _
    rcases hd : s.bridge.device with _ | _ | d
    · exact ends_of_error (by rw [launch_apply, hd]) (.refl s)
    · exact ends_of_error (by rw [launch_apply, hd]) (.refl s)
    by_cases hk : s.bridge.id = k.owner
    · exact Ends.of_eq (launch_of_owner hd hk) (launchOn_unasking dim args signature s)
    · exact ends_of_error (launch_of_stranger hd hk) (.refl s)
  | offload request heap =>
    have hdim : ¬ 0 < request.dim := by simpa [links] using h
    exact Unasking.map
      (fun s => ends_of_error (offload_of_not_range (Range.of_not_pos hdim)) (.refl s)) _

/-- An operation that links has no other way to its table, and asks nothing after it has it. -/
lemma exists_rest_of_links (h : o.links = true) :
    ∃ rest : Table EntryPoint → Action Answer, (∀ t, (rest t).Unasking) ∧
      o.action = ensureTable >>= rest := by
  cases o with
  | link =>
    refine ⟨fun _ => (fun _ => .done) <$> pure (), fun _ => (unasking_pure ()).map _, ?_⟩
    change (fun _ => Answer.done) <$> Bridge.link = _
    exact map_bind _ _ _
  | connect =>
    refine ⟨fun t => .device <$> settle t, fun t => (settle_unasking t).map _, ?_⟩
    change Answer.device <$> Bridge.connect = _
    rw [connect_eq_settle, map_bind]
  | offload request heap =>
    have hpos : 0 < request.dim := by simpa [links] using h
    refine ⟨fun t => (fun _ => .done) <$> (settle t >>= fun d => provide d request heap),
      fun t => ((settle_unasking t).bind fun d => provide_unasking request heap).map _, ?_⟩
    change (fun _ => Answer.done) <$> Bridge.offload request heap = _
    rw [offload_eq_provide hpos heap, connect_eq_settle, bind_assoc, map_bind]
  | _ => simp [links] at h

/-- With a table, or without a need for one, an operation asks nothing. -/
lemma outcome_unasked (h : s.bridge.table ≠ none ∨ o.links = false) :
    s.Unasked (o.outcome s).2 := by
  have hends : o.action.Ends s fun _ s' => s.Unasked s' := by
    rcases hl : o.links
    · exact unasking_of_not_links hl s
    obtain ⟨t, ht⟩ := Option.ne_none_iff_exists'.1 (h.resolve_right (by simp [hl]))
    obtain ⟨rest, hrest, heq⟩ := exists_rest_of_links hl
    rw [heq]
    exact Ends.bind_of_ok (ensureTable_of_bound ht) (hrest t s)
  rw [outcome_eq]
  exact ends_iff.1 hends

/-- A failed attempt is all that an operation without a table does. -/
lemma outcome_of_not_linked (ht : s.bridge.table = none) (ho : o.links = true) {e : Fault}
    (hl : (attempted s).1 = .error e) :
    ∃ notices, o.outcome s = (.error e,
      { s with
        bridge := { s.bridge with attempts := s.bridge.attempts + 1 }
        notices
        queries := s.queries ++ (attempted s).2 }) := by
  obtain ⟨rest, -, heq⟩ := exists_rest_of_links ho
  obtain ⟨notices, hens⟩ := ensureTable_of_not_linked ht hl
  refine ⟨notices, outcome_of_error ?_⟩
  rw [heq, bind_apply, hens]

/-- An attempt that succeeds binds its table, and nothing else is asked. -/
lemma outcome_of_linked (ht : s.bridge.table = none) (ho : o.links = true)
    {t : Table EntryPoint} (hl : (attempted s).1 = .ok t) :
    (o.outcome s).2.bridge.table = some t ∧
      (o.outcome s).2.queries = s.queries ++ (attempted s).2 := by
  obtain ⟨rest, hrest, heq⟩ := exists_rest_of_links ho
  obtain ⟨notices, hens⟩ := ensureTable_of_linked ht hl
  have hends : o.action.Ends s fun _ s' =>
      s'.bridge.table = some t ∧ s'.queries = s.queries ++ (attempted s).2 := by
    rw [heq]
    exact Ends.bind_of_ok hens ((hrest t _).mono fun _ _ hr => ⟨hr.table, hr.queries⟩)
  rw [outcome_eq]
  exact ends_iff.1 hends

end Operation

/-! ### All rounds -/

/-- The attempts that the linking operations of some rounds would make, were each to make one,
counted from `n`. -/
def Resolver.attempts (r : Resolver) :
    Nat → List Round → List (Except Fault (Table EntryPoint) × List Query)
  | _, [] => []
  | n, x :: rest =>
    if x.operation.links then (r.attempt x.fleet n).answers.link :: r.attempts (n + 1) rest
    else r.attempts n rest

namespace Bridge

/-- What is asked during some rounds. -/
def asked (b : Bridge) : List Round → List Query
  | [] => []
  | x :: rest => (b.round x).2.queries.toList ++ (b.round x).2.bridge.asked rest

variable {b : Bridge}

lemma after_cons (b : Bridge) (x : Round) (rest : List Round) :
    b.after (x :: rest) = (b.round x).2.bridge.after rest := rfl

/-- What linking answers and asks if it is tried now. -/
def attempt (b : Bridge) (f : Fleet) : Except Fault (Table EntryPoint) × List Query :=
  (b.resolver.attempt f b.attempts).answers.link

/-- **One round**, its attempt failing: the bridge stays without a table, and calls no device. -/
lemma round_of_failed {x : Round} (ht : b.table = none) (ho : x.operation.links = true)
    {e : Fault} (hl : (b.attempt x.fleet).1 = .error e) :
    (b.round x).1 = .error e ∧ (b.round x).2.bridge = { b with attempts := b.attempts + 1 } ∧
      (b.round x).2.fleet = x.fleet ∧ (b.round x).2.queries.toList = (b.attempt x.fleet).2 := by
  obtain ⟨notices, heq⟩ := Operation.outcome_of_not_linked (s := .of b x.fleet) ht ho hl
  have hround : b.round x = _ := heq
  rw [hround]
  exact ⟨rfl, rfl, rfl, by simp [Scene.of, attempted, attempt]⟩

/-- **One round**, its attempt succeeding: the bridge is bound to the table, and asks no more. -/
lemma round_of_linked {x : Round} (ht : b.table = none) (ho : x.operation.links = true)
    {t : Table EntryPoint} (hl : (b.attempt x.fleet).1 = .ok t) :
    (b.round x).2.bridge.table = some t ∧
      (b.round x).2.queries.toList = (b.attempt x.fleet).2 := by
  obtain ⟨htable, hqueries⟩ := Operation.outcome_of_linked (s := .of b x.fleet) ht ho hl
  refine ⟨htable, ?_⟩
  have hasked : (b.round x).2.queries = #[] ++ (b.attempt x.fleet).2 := hqueries
  rw [hasked]
  simp

/-- With a table, nothing is asked any more. -/
lemma after_of_bound {t : Table EntryPoint} (h : b.table = some t) (rounds : List Round) :
    (b.after rounds).table = some t ∧ b.asked rounds = [] := by
  induction rounds generalizing b with
  | nil => exact ⟨h, rfl⟩
  | cons x rest ih =>
    have hstep : (Scene.of b x.fleet).Unasked (b.round x).2 :=
      Operation.outcome_unasked (.inl (by simp [Scene.of, h]))
    obtain ⟨htable, hasked⟩ := ih (hstep.table.trans h)
    refine ⟨htable, ?_⟩
    rw [asked, hstep.queries, hasked]
    rfl

/-- **All rounds** of a bridge without a table come to the first attempt that succeeds, and ask what
is asked up to there. -/
lemma after_of_unbound (h : b.table = none) (rounds : List Round) :
    let attempts := b.resolver.attempts b.attempts rounds
    (b.after rounds).table = attempts.findSome? (·.1.toOption) ∧
      b.asked rounds = (attempts.take (attempts.findIdx (·.1.isOk) + 1)).flatMap Prod.snd := by
  induction rounds generalizing b with
  | nil => exact ⟨h, rfl⟩
  | cons x rest ih =>
    rw [after_cons, asked, Resolver.attempts]
    rcases ho : x.operation.links
    · have hstep : (Scene.of b x.fleet).Unasked (b.round x).2 :=
        Operation.outcome_unasked (.inr ho)
      obtain ⟨htable, hasked⟩ := ih (hstep.table.trans h)
      rw [hstep.resolver, hstep.attempts] at htable hasked
      refine ⟨htable, ?_⟩
      rw [hasked, hstep.queries]
      rfl
    · change let attempts := b.attempt x.fleet :: b.resolver.attempts (b.attempts + 1) rest
        ((b.round x).2.bridge.after rest).table = attempts.findSome? (·.1.toOption) ∧
          (b.round x).2.queries.toList ++ (b.round x).2.bridge.asked rest =
            (attempts.take (attempts.findIdx (·.1.isOk) + 1)).flatMap Prod.snd
      rcases hl : (b.attempt x.fleet).1 with e | t
      · obtain ⟨-, hbridge, -, hqueries⟩ := round_of_failed h ho hl
        have hunbound : (b.round x).2.bridge.table = none := by rw [hbridge]; exact h
        obtain ⟨htable, hasked⟩ := ih hunbound
        rw [hbridge] at htable hasked ⊢
        have hfailed : (b.attempt x.fleet).1.isOk = false := by rw [hl]; rfl
        have hnone : (b.attempt x.fleet).1.toOption = none := by rw [hl]; rfl
        refine ⟨by rw [List.findSome?_cons, hnone]; exact htable, ?_⟩
        rw [hqueries, hasked, List.findIdx_cons, hfailed]
        rfl
      · obtain ⟨hbound, hqueries⟩ := round_of_linked h ho hl
        obtain ⟨htable, hasked⟩ := after_of_bound hbound rest
        have hok : (b.attempt x.fleet).1.isOk = true := by rw [hl]; rfl
        have hsome : (b.attempt x.fleet).1.toOption = some t := by rw [hl]; rfl
        refine ⟨by rw [List.findSome?_cons, hsome]; exact htable, ?_⟩
        rw [hqueries, hasked, List.findIdx_cons, hok]
        simp

/-- While there is no table, every operation that links has made one attempt. -/
lemma after_still_unbound (h : b.table = none) (rounds : List Round)
    (hafter : (b.after rounds).table = none) :
    (b.after rounds).resolver = b.resolver ∧
      (b.after rounds).attempts = b.attempts + rounds.countP (·.operation.links) := by
  induction rounds generalizing b with
  | nil => exact ⟨rfl, rfl⟩
  | cons x rest ih =>
    rw [after_cons] at hafter ⊢
    rcases ho : x.operation.links
    · have hstep : (Scene.of b x.fleet).Unasked (b.round x).2 :=
        Operation.outcome_unasked (.inr ho)
      obtain ⟨hr, hn⟩ := ih (hstep.table.trans h) hafter
      refine ⟨hr.trans hstep.resolver, hn.trans ?_⟩
      rw [hstep.attempts, List.countP_cons_of_neg (by simp [ho])]
      rfl
    · rcases hl : (b.attempt x.fleet).1 with e | t
      · obtain ⟨-, hbridge, -, -⟩ := round_of_failed h ho hl
        rw [hbridge] at hafter ⊢
        obtain ⟨hr, hn⟩ := ih (b := { b with attempts := b.attempts + 1 }) h hafter
        refine ⟨hr, hn.trans ?_⟩
        rw [List.countP_cons_of_pos (by simp [ho])]
        change b.attempts + 1 + _ = _
        omega
      · obtain ⟨hbound, -⟩ := round_of_linked h ho hl
        rw [(after_of_bound hbound rest).1] at hafter
        simp at hafter

/-- **Linkage is all or nothing**: whatever a library answers, it is opened once. If it does not
open, nothing is looked up and all required names are missing; else each of them is looked up once,
in table order, and exactly those without an address are missing. Only when none is, the number of
cores is asked for too, and every entry of the table is what was found under its own name.

Whatever a resolver answers from one attempt to the next, the table of a bridge is that of the first
attempt that succeeds, and what is asked is what the attempts up to it ask. An attempt that fails
leaves the bridge as it was but for the count of attempts, and calls no device. -/
theorem linkage_all_or_nothing :
    (Symbol.all.map Symbol.name).Nodup ∧
    (∀ (α : Type) (a : Answers α),
      let lookUps := Symbol.required.map fun s => Query.lookUp s.name
      (a.opened = false →
        a.link = (.error (.linkage (Symbol.required.map Symbol.name)), [.open_])) ∧
      (a.opened = true → a.missing Symbol.required ≠ [] →
        a.link = (.error (.linkage ((a.missing Symbol.required).map Symbol.name)),
          .open_ :: lookUps)) ∧
      (a.opened = true → a.missing Symbol.required = [] →
        ∃ t : Table α, (∀ s, t.entry? s = a.address? s) ∧
          a.link = (.ok t, .open_ :: lookUps ++ [.lookUp Symbol.totalCores.name]))) ∧
    (∀ (n : Nat) (r : Resolver) (settings : Settings) (rounds : List Round),
      let start := Bridge.of n r settings
      let b := start.after rounds
      let attempts := r.attempts 0 rounds
      b.table = attempts.findSome? (·.1.toOption) ∧
      start.asked rounds = (attempts.take (attempts.findIdx (·.1.isOk) + 1)).flatMap Prod.snd ∧
      ∀ (x : Round) (e : Fault), b.table = none → x.operation.links = true →
        let attempt := (r.attempt x.fleet (rounds.countP (·.operation.links))).answers.link
        attempt.1 = .error e →
          (b.round x).1 = .error e ∧
          (b.round x).2.bridge = { b with attempts := b.attempts + 1 } ∧
          (b.round x).2.fleet = x.fleet ∧
          (b.round x).2.queries.toList = attempt.2) := by
  refine ⟨by decide +kernel, fun α a => ?_, fun n r settings rounds => ?_⟩
  · exact ⟨Answers.link_of_closed, Answers.link_of_missing, Answers.link_of_found⟩
  have hstart : (Bridge.of n r settings).table = none := rfl
  obtain ⟨htable, hasked⟩ := after_of_unbound hstart rounds
  refine ⟨htable, hasked, fun x e hb ho => ?_⟩
  obtain ⟨hr, hn⟩ := after_still_unbound hstart rounds hb
  have hattempt : ((Bridge.of n r settings).after rounds).attempt x.fleet =
      (r.attempt x.fleet (rounds.countP (·.operation.links))).answers.link := by
    rw [attempt, hr, hn]
    simp [Bridge.of]
  rw [← hattempt]
  exact round_of_failed hb ho

/-- A library that opens at the second attempt only, and lacks one name even then. -/
theorem linkage_all_or_nothing_reopened :
    let fleet := Fleet.empty.install {}
    let r := Resolver.scripted 0 [false, true] ["okra_clearargs"]
    let b := (Bridge.of 0 r .default).after [⟨fleet, .connect⟩]
    let second := b.round ⟨fleet, .connect⟩
    b.table = none ∧ second.1 = .error (.linkage ["okra_clearargs"]) ∧
      second.2.bridge.table = none ∧ second.2.fleet = fleet ∧
      second.2.queries.toList = Query.required := by
  intro fleet r b second
  obtain ⟨-, hlink, hrun⟩ := linkage_all_or_nothing
  obtain ⟨-, hmissing, -⟩ := hlink _ (r.attempt fleet 1).answers
  have hnames : (r.attempt fleet 1).answers.missing Symbol.required = [.clearArgs] := by
    decide +kernel
  have hattempt := hmissing (by rfl) (by simp [hnames])
  rw [hnames] at hattempt
  obtain ⟨htable, -, hfailed⟩ := hrun 0 r .default [⟨fleet, .connect⟩]
  have hb : b.table = none := htable.trans (by rfl)
  obtain ⟨hr, hbridge, hfleet, hasked⟩ :=
    hfailed ⟨fleet, .connect⟩ (.linkage ["okra_clearargs"]) hb rfl (congrArg Prod.fst hattempt)
  refine ⟨hb, hr, by rw [hbridge]; exact hb, hfleet, ?_⟩
  rw [hasked]
  exact congrArg Prod.snd hattempt

end Bridge

end Offload
