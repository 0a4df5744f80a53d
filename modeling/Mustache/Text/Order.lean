namespace Mustache.Text

def precedes : List Char → List Char → Bool
  | _, [] => false
  | [], _ :: _ => true
  | a :: as, b :: bs => a.toNat < b.toNat || a == b && precedes as bs

theorem precedes_asymm {left right : List Char} (first : precedes left right = true) :
    precedes right left = false := by
  fun_induction precedes left right with
  | case1 => cases first
  | case2 => rfl
  | case3 a as b bs ih =>
    simp only [Bool.or_eq_true, decide_eq_true_eq, Bool.and_eq_true, beq_iff_eq] at first
    rcases first with less | ⟨rfl, later⟩
    · have : a ≠ b := fun same => by simp [same] at less
      simp [precedes, Nat.not_lt.mpr (Nat.le_of_lt less), this.symm]
    · simp [precedes, ih later]

theorem precedes_irrefl (text : List Char) : precedes text text = false := by
  cases order : precedes text text with
  | false => rfl
  | true => exact order.symm.trans (precedes_asymm order)

theorem precedes_trans {first second third : List Char} (here : precedes first second = true)
    (there : precedes second third = true) : precedes first third = true := by
  induction first generalizing second third with
  | nil =>
    cases second with
    | nil => cases here
    | cons b bs =>
      cases third with
      | nil => cases there
      | cons c cs => rfl
  | cons a as ih =>
    cases second with
    | nil => cases here
    | cons b bs =>
      cases third with
      | nil => cases there
      | cons c cs =>
        simp only [precedes, Bool.or_eq_true, decide_eq_true_eq, Bool.and_eq_true,
          beq_iff_eq] at here there ⊢
        rcases here with less | ⟨rfl, here⟩
        · rcases there with less' | ⟨rfl, -⟩
          · exact .inl (Nat.lt_trans less less')
          · exact .inl less
        · rcases there with less' | ⟨rfl, there⟩
          · exact .inl less'
          · exact .inr ⟨rfl, ih here there⟩

theorem precedes_total {left right : List Char} (different : left ≠ right) :
    precedes left right = true ∨ precedes right left = true := by
  fun_induction precedes left right with
  | case1 left => cases left <;> simp_all [precedes]
  | case2 => simp
  | case3 a as b bs ih =>
    by_cases same : a = b
    · subst same
      simpa [precedes] using ih (by simpa using different)
    · have : a.toNat ≠ b.toNat := fun numbers => same (Char.toNat_inj.mp numbers)
      simp only [precedes, Bool.or_eq_true, decide_eq_true_eq]
      omega

end Mustache.Text
