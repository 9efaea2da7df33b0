import Offload.Proofs.Json.Number
import Offload.Proofs.Json.Text

/-!
Skipping: a value of any shape and depth is left behind, and nothing of what follows it.

The scan goes from left to right with the open brackets on a stack, so that what a part of a value
comes to is said for every stack: a whole value hands over to what follows it in the innermost
bracket, an item to the comma or the bracket behind it. The induction is on the grammar.
-/

namespace Offload.Json

/-! ### Space -/

variable {sp rest : List Char}

lemma Spaces.isSpace (h : Spaces sp) : ∀ c ∈ sp, isSpace c = true := by
  have hall : [' ', '\t', '\n', '\r'].all Json.isSpace = true := by decide
  exact fun c hc => List.all_eq_true.1 hall c (h c hc)

lemma skipSpace_append (h : Spaces sp) (cs : List Char) : skipSpace (sp ++ cs) = skipSpace cs :=
  List.dropWhile_append_of_pos h.isSpace

lemma skipSpace_of_not_space {c : Char} (h : isSpace c = false) (cs : List Char) :
    skipSpace (c :: cs) = c :: cs := by
  simp [skipSpace, h]

lemma skipSpace_of_spaces (h : Spaces sp) {c : Char} (hc : isSpace c = false) (cs : List Char) :
    skipSpace (sp ++ c :: cs) = c :: cs :=
  (skipSpace_append h _).trans (skipSpace_of_not_space hc cs)

/-- Space, a comma and a closing bracket do not continue a number. -/
lemma Spaces.endsNumber (h : Spaces sp) {c : Char} (hc : c ∈ [',', ']', '\x7d'])
    (r : List Char) : EndsNumber (sp ++ c :: r) := by
  have hall : ([' ', '\t', '\n', '\r'] ++ [',', ']', '\x7d']).all
      (fun x => !x.isDigit && x != '.' && x != 'e' && x != 'E') = true := by decide
  intro x hx
  have hmem : x ∈ [' ', '\t', '\n', '\r'] ++ [',', ']', '\x7d'] := by
    refine List.mem_append.2 ?_
    cases sp with
    | nil => exact .inr (Option.some.inj hx ▸ hc)
    | cons y ys => exact .inl (Option.some.inj hx ▸ h y (by simp))
  simpa [and_assoc] using List.all_eq_true.1 hall x hmem

/-! ### One step of the scan -/

/-- What a finished value hands over to. -/
def finished (stack : List Bracket) (rest : List Char) : Except Stop (List Char) :=
  if stack = [] then .ok rest else skipFrom .more stack rest

variable {stack outer : List Bracket} {b : Bracket} {cs r t : List Char} {c : Char}

lemma skipFrom_opening (h : skipSpace cs = b.opening :: r) :
    skipFrom .value stack cs = skipFrom .first (b :: stack) r := by
  rw [skipFrom.eq_def]
  cases b <;> split <;> simp_all [Bracket.opening]

lemma skipFrom_scalar (h : skipSpace cs = c :: r) (hc : ∀ b, c ≠ Bracket.opening b)
    (hs : skipScalar (c :: r) = .ok t) : skipFrom .value stack cs = finished stack t := by
  rw [skipFrom.eq_def]
  split
  · rename_i heq
    exact absurd (List.cons.inj (h.symm.trans heq)).1 (hc .list)
  · rename_i heq
    exact absurd (List.cons.inj (h.symm.trans heq)).1 (hc .object)
  · split
    · rename_i he
      rw [h, hs] at he
      cases he
    · rename_i he
      rw [h, hs] at he
      obtain rfl := Except.ok.inj he
      rfl
  all_goals simp_all

lemma skipFrom_key (h : skipSpace cs = c :: r) (hk : skipKey (c :: r) = .ok t) :
    skipFrom .key stack cs = skipFrom .value stack t := by
  rw [skipFrom.eq_def]
  simp only
  split
  · rename_i he
    rw [h, hk] at he
    cases he
  · rename_i he
    rw [h, hk] at he
    obtain rfl := Except.ok.inj he
    rfl

lemma skipFrom_first_closing (h : skipSpace cs = b.closing :: r) :
    skipFrom .first (b :: outer) cs = finished outer r := by
  rw [skipFrom.eq_def]
  split <;> simp_all [finished]

lemma skipFrom_first_element (h : skipSpace cs = c :: r) (hc : c ≠ b.closing) :
    skipFrom .first (b :: outer) cs = skipFrom b.element (b :: outer) (c :: r) := by
  rw [skipFrom.eq_def]
  split <;> simp_all

lemma skipFrom_more_comma (h : skipSpace cs = ',' :: r) :
    skipFrom .more (b :: outer) cs = skipFrom b.element (b :: outer) r := by
  rw [skipFrom.eq_def]
  split <;> simp_all

lemma skipFrom_more_closing (h : skipSpace cs = b.closing :: r) :
    skipFrom .more (b :: outer) cs = finished outer r := by
  have hcomma : b.closing ≠ ',' := by cases b <;> decide
  rw [skipFrom.eq_def]
  split <;> simp_all [finished]

/-! ### Where a part begins -/

/-- A part begins with a character that is no space and closes no bracket, behind some space unless
it is a value. -/
def Part.Begins (p : Part) (cs : List Char) : Prop :=
  ∃ sp c r, Spaces sp ∧ cs = sp ++ c :: r ∧ c ∉ [' ', '\t', '\n', '\r', ']', '\x7d'] ∧
    (p = .value → sp = [])

lemma NumberText.begins (h : NumberText cs) :
    ∃ c r, cs = c :: r ∧ (c = '-' ∨ c.isDigit = true) := by
  obtain ⟨hsign, hwhole, -, -⟩ := h
  obtain ⟨c, r, rfl, hc⟩ := hwhole.head
  obtain rfl | rfl := hsign
  · exact ⟨c, _, rfl, .inr hc⟩
  · exact ⟨'-', _, rfl, .inl rfl⟩

lemma not_mem_of_isDigit (hc : c.isDigit = true) :
    c ∉ [' ', '\t', '\n', '\r', ']', '\x7d'] := by
  have hall : [' ', '\t', '\n', '\r', ']', '\x7d'].all (fun x => !x.isDigit) = true := by decide
  intro hmem
  simpa [hc] using List.all_eq_true.1 hall c hmem

lemma Formed.begins {p : Part} (h : Formed p cs) : p.Begins cs := by
  have hvalue : ∀ {c : Char} {r : List Char}, c ∉ [' ', '\t', '\n', '\r', ']', '\x7d'] →
      Part.Begins .value (c :: r) := fun hc => ⟨[], _, _, by simp [Spaces], rfl, hc, fun _ => rfl⟩
  induction h with
  | word h =>
    simp only [List.mem_cons, List.not_mem_nil, or_false] at h
    obtain rfl | rfl | rfl := h
    · exact hvalue (by decide)
    · exact hvalue (by decide)
    · exact hvalue (by decide)
  | number h =>
    obtain ⟨c, r, rfl, rfl | hc⟩ := h.begins
    · exact hvalue (by decide)
    · exact hvalue (not_mem_of_isDigit hc)
  | string h =>
    obtain ⟨h⟩ := h
    exact hvalue (by decide)
  | @empty b => exact hvalue (by cases b <;> decide)
  | @bracketed b => exact hvalue (by cases b <;> decide)
  | @element before cs after hbefore _ _ ih =>
    obtain ⟨sp, c, r, -, rfl, hc, hsp⟩ := ih
    rw [hsp rfl]
    exact ⟨before, c, r ++ after, hbefore, by simp, hc, by simp⟩
  | @entry _ _ _ after _ hcs _ _ =>
    obtain ⟨hbefore, ⟨_⟩, -, -⟩ := hcs
    exact ⟨_, '"', _, hbefore, by simp; rfl, by decide, by simp⟩
  | last _ ih =>
    obtain ⟨sp, c, r, hspaces, rfl, hc, -⟩ := ih
    exact ⟨sp, c, r, hspaces, rfl, hc, by simp⟩
  | @next _ _ ds _ _ ih _ =>
    obtain ⟨sp, c, r, hspaces, rfl, hc, -⟩ := ih
    exact ⟨sp, c, r ++ ',' :: ds, hspaces, by simp, hc, by simp⟩

/-- A value is not skipped as space. -/
lemma Formed.skipSpace_append (h : Formed .value cs) (rest : List Char) :
    skipSpace (cs ++ rest) = cs ++ rest := by
  obtain ⟨sp, c, r, -, rfl, hc, hsp⟩ := h.begins
  rw [hsp rfl]
  refine skipSpace_of_not_space ?_ _
  simp only [List.mem_cons, not_or] at hc
  simp [isSpace, hc]

/-- Items do not begin with the bracket that closes them. -/
lemma Formed.skipSpace_items (h : Formed (.items b) cs) (rest : List Char) :
    ∃ c r, skipSpace (cs ++ rest) = c :: r ∧ isSpace c = false ∧ c ≠ b.closing := by
  obtain ⟨sp, c, r, hspaces, rfl, hc, -⟩ := h.begins
  simp only [List.mem_cons, not_or] at hc
  have hspace : isSpace c = false := by simp [isSpace, hc]
  refine ⟨c, r ++ rest, ?_, hspace, ?_⟩
  · rw [List.append_assoc]
    exact skipSpace_of_spaces hspaces hspace _
  · rintro rfl
    cases b <;> simp [Bracket.closing] at hc

/-! ### Parts -/

/-- An entry is a quoted key, behind which comes a colon, behind which comes its value. -/
lemma EntryText.shape {key value : List Char} (h : EntryText key value cs) (rest : List Char) :
    ∃ body r space, Spelled key body ∧ Spaces space ∧
      skipSpace (cs ++ rest) = '"' :: (body ++ '"' :: r) ∧
      colon r = .ok (space ++ (value ++ rest)) := by
  obtain @⟨before, quoted, between, space, _, hbefore, hquoted, hbetween, hspace⟩ := h
  obtain @⟨body, hbody⟩ := hquoted
  refine ⟨body, between ++ ':' :: (space ++ (value ++ rest)), space, hbody, hspace, ?_, ?_⟩
  · have hstart := skipSpace_of_spaces hbefore (c := '"') (by decide)
      (body ++ '"' :: (between ++ ':' :: (space ++ (value ++ rest))))
    simpa using hstart
  · rw [colon, skipSpace_of_spaces hbetween (by decide)]
    rfl

lemma skipScalar_number (h : NumberText cs) (hrest : EndsNumber rest) :
    skipScalar (cs ++ rest) = .ok rest := by
  obtain @⟨sign, whole, fraction, exponent, n, hsign, hwhole, hfraction, hexponent⟩ := h
  have hskip := skipNumber_append hwhole hfraction hexponent hrest
  obtain rfl | rfl := hsign
  · obtain ⟨c, r, rfl, hc⟩ := hwhole.head
    have hword : ∀ {x : Char}, x.isDigit = false → c ≠ x := by
      rintro x hx rfl
      rw [hc] at hx
      cases hx
    have hskip' : skipNumber (c :: (r ++ (fraction ++ (exponent ++ rest)))) = .ok rest := by
      simpa using hskip
    simp only [List.nil_append, List.cons_append, List.append_assoc, skipScalar,
      if_neg (hword (x := 'n') rfl), if_neg (hword (x := 't') rfl), if_neg (hword (x := 'f') rfl),
      if_neg (hword (x := '-') rfl), hc, if_true, hskip']
  · have hskip' : skipNumber (whole ++ (fraction ++ (exponent ++ rest))) = .ok rest := hskip
    simpa [skipScalar] using hskip'

/-- What the scan makes of a part, whatever brackets are open around it. -/
def Part.Skipped (cs : List Char) : Part → Prop
  | .value => ∀ stack rest t, EndsNumber rest → skipSpace t = cs ++ rest →
      skipFrom .value stack t = finished stack rest
  | .item b => ∀ outer r t,
      (skipSpace t = skipSpace (cs ++ ',' :: r) →
        skipFrom b.element (b :: outer) t = skipFrom b.element (b :: outer) r) ∧
      (skipSpace t = skipSpace (cs ++ b.closing :: r) →
        skipFrom b.element (b :: outer) t = finished outer r)
  | .items b => ∀ outer r t, skipSpace t = skipSpace (cs ++ b.closing :: r) →
      skipFrom b.element (b :: outer) t = finished outer r

lemma skipped_scalar (hopen : cs.head? ∉ [some '[', some '\x7b']) (hne : cs ≠ [])
    (h : ∀ rest, EndsNumber rest → skipScalar (cs ++ rest) = .ok rest) :
    Part.Skipped cs .value := by
  intro stack rest t hrest ht
  obtain ⟨c, r, rfl⟩ := List.exists_cons_of_ne_nil hne
  refine skipFrom_scalar ht ?_ (h rest hrest)
  rintro b rfl
  cases b <;> simp [Bracket.opening] at hopen

/-- Space behind an item makes no difference to what follows it. -/
lemma skipped_item {after : List Char} (hafter : Spaces after)
    (h : ∀ outer rest t, EndsNumber rest → skipSpace t = skipSpace (cs ++ rest) →
      skipFrom b.element (b :: outer) t = skipFrom .more (b :: outer) rest) :
    Part.Skipped (cs ++ after) (.item b) := by
  refine fun outer r t => ⟨fun ht => ?_, fun ht => ?_⟩
  · rw [List.append_assoc] at ht
    rw [h outer _ t (hafter.endsNumber (by decide) r) ht]
    exact skipFrom_more_comma (skipSpace_of_spaces hafter (by decide) r)
  · rw [List.append_assoc] at ht
    rw [h outer _ t (hafter.endsNumber (by cases b <;> decide) r) ht]
    exact skipFrom_more_closing (skipSpace_of_spaces hafter (by cases b <;> decide) r)

/-- **Parts skipped**: the scan leaves a part behind, and what follows it is untouched. -/
lemma Formed.skipped {p : Part} (h : Formed p cs) : p.Skipped cs := by
  induction h with
  | word h =>
    simp only [List.mem_cons, List.not_mem_nil, or_false] at h
    obtain rfl | rfl | rfl := h
    · exact skipped_scalar (by decide) (by decide) fun _ _ => rfl
    · exact skipped_scalar (by decide) (by decide) fun _ _ => rfl
    · exact skipped_scalar (by decide) (by decide) fun _ _ => rfl
  | @number cs h =>
    obtain ⟨c, r, rfl, hc⟩ := h.begins
    refine skipped_scalar ?_ (by simp) fun rest => skipScalar_number h
    rintro hmem
    simp only [List.head?_cons, List.mem_cons, Option.some.injEq, List.not_mem_nil, or_false] at hmem
    obtain rfl | rfl := hmem
    · simp at hc
    · simp at hc
  | @string s cs h =>
    obtain ⟨h⟩ := h
    refine skipped_scalar (by simp) (by simp) fun rest _ => ?_
    have hskip := h.skipString rest
    simpa [skipScalar] using hskip
  | @empty b space h =>
    intro stack rest t _ ht
    rw [List.cons_append, List.append_assoc] at ht
    rw [skipFrom_opening ht]
    exact skipFrom_first_closing (skipSpace_of_spaces h (by cases b <;> decide) rest)
  | @bracketed b cs h ih =>
    intro stack rest t _ ht
    rw [List.cons_append, List.append_assoc] at ht
    obtain ⟨c, r, hstart, hspace, hc⟩ := h.skipSpace_items (b.closing :: rest)
    rw [skipFrom_opening ht, List.singleton_append, skipFrom_first_element hstart hc]
    exact ih stack rest _ ((skipSpace_of_not_space hspace r).trans hstart.symm)
  | @element before cs after hbefore h hafter ih =>
    rw [← List.append_assoc]
    refine skipped_item hafter fun outer rest t hrest ht => ?_
    rw [List.append_assoc, Json.skipSpace_append hbefore, h.skipSpace_append] at ht
    exact ih _ rest t hrest ht
  | @entry key value cs after h hcs hafter ih =>
    refine skipped_item hafter fun outer rest t hrest ht => ?_
    obtain ⟨body, r, space, hbody, hspace, hstart, hcolon⟩ := hcs.shape rest
    have hkey : skipKey ('"' :: (body ++ '"' :: r)) = .ok (space ++ (value ++ rest)) := by
      rw [skipKey, if_pos rfl, hbody.skipString]
      exact hcolon
    refine (skipFrom_key (ht.trans hstart) hkey).trans (ih _ rest _ hrest ?_)
    rw [Json.skipSpace_append hspace, h.skipSpace_append]
  | last _ ih => exact fun outer r t ht => (ih outer r t).2 ht
  | @next b cs ds _ _ ih ihs =>
    intro outer r t ht
    rw [List.append_assoc] at ht
    rw [(ih outer _ t).1 ht]
    exact ihs outer r _ rfl

/-- **Values skipped**, with the space before them. -/
lemma skipValue_append (hsp : Spaces sp) (h : Formed .value cs) (hrest : EndsNumber rest) :
    skipValue (sp ++ (cs ++ rest)) = .ok rest := by
  have hstart : skipSpace (sp ++ (cs ++ rest)) = cs ++ rest := by
    rw [skipSpace_append hsp, h.skipSpace_append]
  exact h.skipped [] rest _ hrest hstart

end Offload.Json
