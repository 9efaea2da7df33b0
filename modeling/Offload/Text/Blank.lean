/-!
Blank characters (the white space property of the character standard) and trimming.
-/

namespace Offload.Text

def isBlank (c : Char) : Bool :=
  (9 ≤ c.toNat && c.toNat ≤ 13) || c.toNat = 0x20 || c.toNat = 0x85 || c.toNat = 0xa0 ||
  c.toNat = 0x1680 || (0x2000 ≤ c.toNat && c.toNat ≤ 0x200a) || c.toNat = 0x2028 ||
  c.toNat = 0x2029 || c.toNat = 0x202f || c.toNat = 0x205f || c.toNat = 0x3000

/-- The text without the blanks at its two ends. -/
def trim (cs : List Char) : List Char :=
  ((cs.dropWhile isBlank).reverse.dropWhile isBlank).reverse

private theorem dropWhile_isBlank {cs : List Char} (h : ∀ c ∈ cs.head?, isBlank c = false) :
    cs.dropWhile isBlank = cs := by
  cases cs with
  | nil => rfl
  | cons c r => simp [List.dropWhile, h c (by simp)]

variable {before cs after : List Char}

/-- Blanks around a text are all that is taken from it, if it has none at its two ends. -/
theorem trim_between (hbefore : ∀ c ∈ before, isBlank c = true)
    (hafter : ∀ c ∈ after, isBlank c = true) (hhead : ∀ c ∈ cs.head?, isBlank c = false)
    (hlast : ∀ c ∈ cs.getLast?, isBlank c = false) : trim (before ++ (cs ++ after)) = cs := by
  have hrev : ∀ c ∈ after.reverse, isBlank c = true :=
    fun c hc => hafter c (List.mem_reverse.1 hc)
  have hback : (after.reverse ++ cs.reverse).dropWhile isBlank = cs.reverse := by
    rw [List.dropWhile_append_of_pos hrev]
    exact dropWhile_isBlank (by simpa using hlast)
  rw [trim, List.dropWhile_append_of_pos hbefore]
  cases cs with
  | nil =>
    have hnone : after.dropWhile isBlank = [] := by
      rw [← List.append_nil after, List.dropWhile_append_of_pos hafter, List.dropWhile_nil]
    rw [List.nil_append, hnone]
    rfl
  | cons c r =>
    have hfront : (c :: r ++ after).dropWhile isBlank = c :: r ++ after :=
      dropWhile_isBlank (by simpa using hhead)
    rw [hfront, List.reverse_append, hback, List.reverse_reverse]

example : trim ['\u0085', ' ', '8', ' ', '1', '\t', '\u3000'] = ['8', ' ', '1'] := by decide

theorem trim_append (hbefore : ∀ c ∈ before, isBlank c = true)
    (hafter : ∀ c ∈ after, isBlank c = true) (hcs : ∀ c ∈ cs, isBlank c = false) :
    trim (before ++ (cs ++ after)) = cs :=
  trim_between hbefore hafter (fun c hc => hcs c (List.mem_of_mem_head? hc))
    fun c hc => hcs c (List.mem_of_getLast? hc)

/-- A text is what trimming leaves of it, between blanks. -/
theorem exists_blanks_trim (cs : List Char) : ∃ before after,
    (∀ c ∈ before, isBlank c = true) ∧ (∀ c ∈ after, isBlank c = true) ∧
      cs = before ++ (trim cs ++ after) := by
  have hblank : ∀ ds : List Char, ∀ c ∈ ds.takeWhile isBlank, isBlank c = true :=
    fun ds => List.all_eq_true.1 List.all_takeWhile
  have hback : ∀ ds : List Char, ds =
      (ds.reverse.dropWhile isBlank).reverse ++ (ds.reverse.takeWhile isBlank).reverse := by
    intro ds
    rw [← List.reverse_append, List.takeWhile_append_dropWhile, List.reverse_reverse]
  refine ⟨cs.takeWhile isBlank, ((cs.dropWhile isBlank).reverse.takeWhile isBlank).reverse,
    hblank cs, fun c hc => hblank _ c (List.mem_reverse.1 hc), ?_⟩
  rw [trim, ← hback, List.takeWhile_append_dropWhile]

end Offload.Text
