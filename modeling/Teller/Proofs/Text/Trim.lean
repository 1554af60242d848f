import Mathlib.Data.List.TakeWhile
import Teller.Text.Blank

/-!
# Trimming

* `exists_append_trimWhere`: what trimming takes away stands at the two ends of a text.
* `trimWhere_around`, `trimWhere_append`: it takes away all of that, and nothing else.
-/

namespace Teller.Text

variable {drop : Char → Bool} {before core after : List Char}

/-- **Trimming takes away the two ends** of a text. -/
theorem exists_append_trimWhere (drop : Char → Bool) (cs : List Char) :
    ∃ before after, cs = before ++ trimWhere drop cs ++ after ∧
      (∀ c ∈ before, drop c = true) ∧ ∀ c ∈ after, drop c = true := by
  have hfront := List.takeWhile_append_dropWhile (p := drop) (l := cs)
  have hback := List.takeWhile_append_dropWhile (p := drop) (l := (cs.dropWhile drop).reverse)
  refine ⟨cs.takeWhile drop, ((cs.dropWhile drop).reverse.takeWhile drop).reverse, ?_, ?_, ?_⟩
  · have hrest : trimWhere drop cs ++ ((cs.dropWhile drop).reverse.takeWhile drop).reverse =
        cs.dropWhile drop := by
      unfold trimWhere
      rw [← List.reverse_append, hback, List.reverse_reverse]
    rw [List.append_assoc, hrest, hfront]
  · intro c hc
    exact List.mem_takeWhile_imp hc
  · intro c hc
    exact List.mem_takeWhile_imp (List.mem_reverse.1 hc)

/-- **Trimming does not see** more characters to cut off at the two ends of a text. -/
theorem trimWhere_around (hbefore : ∀ c ∈ before, drop c = true)
    (hafter : ∀ c ∈ after, drop c = true) (cs : List Char) :
    trimWhere drop (before ++ cs ++ after) = trimWhere drop cs := by
  have hafter' : ∀ c ∈ after.reverse, drop c = true :=
    fun c hc => hafter c (List.mem_reverse.1 hc)
  unfold trimWhere
  rw [List.append_assoc, List.dropWhile_append_of_pos hbefore, List.dropWhile_append]
  by_cases hall : (cs.dropWhile drop).isEmpty = true
  · rw [if_pos hall, List.isEmpty_iff.1 hall, List.dropWhile_eq_nil_iff.2 hafter]
  · rw [if_neg hall, List.reverse_append, List.dropWhile_append_of_pos hafter']

/-- **Trimming leaves the middle** of a text, where no character is cut off. -/
theorem trimWhere_append (hbefore : ∀ c ∈ before, drop c = true)
    (hcore : ∀ c ∈ core, drop c = false) (hafter : ∀ c ∈ after, drop c = true) :
    trimWhere drop (before ++ core ++ after) = core := by
  have hkept {cs : List Char} (h : ∀ c ∈ cs, drop c = false) : cs.dropWhile drop = cs := by
    cases cs with
    | nil => rfl
    | cons c cs => exact List.dropWhile_cons_of_neg (by simp [h c List.mem_cons_self])
  rw [trimWhere_around hbefore hafter]
  unfold trimWhere
  rw [hkept hcore, hkept fun c hc => hcore c (List.mem_reverse.1 hc), List.reverse_reverse]

end Teller.Text
