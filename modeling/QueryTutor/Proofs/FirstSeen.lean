import Mathlib.Tactic.Common
import QueryTutor.FirstSeen

/-!
# First occurrences in lists

Every element has a first occurrence, which shares its key with no other one, and it stays the first
when the list goes on.
-/

namespace QueryTutor

variable {α β : Type} [BEq β] {key : α → β} {as bs : List α}

lemma firstSeenAfter_prefix (h : as <+: bs) (seen : List β) :
    firstSeenAfter key seen as <+: firstSeenAfter key seen bs := by
  induction as generalizing bs seen with
  | nil => exact List.nil_prefix
  | cons a as ih =>
    obtain ⟨rest, rfl⟩ := h
    rw [List.cons_append, firstSeenAfter, firstSeenAfter]
    split_ifs
    · exact ih ⟨rest, rfl⟩ seen
    · exact (List.prefix_cons_inj a).2 (ih ⟨rest, rfl⟩ _)

/-- First occurrences stay the first when the list goes on. -/
lemma firstSeen_prefix {as bs : List β} (h : as <+: bs) : firstSeen as <+: firstSeen bs :=
  firstSeenAfter_prefix h []

lemma mem_of_mem_firstSeenAfter {seen : List β} {a : α} (h : a ∈ firstSeenAfter key seen as) :
    a ∈ as := by
  induction as generalizing seen with
  | nil => exact h
  | cons b as ih =>
    rw [firstSeenAfter] at h
    split_ifs at h
    · exact List.mem_cons_of_mem _ (ih h)
    · obtain rfl | h := List.mem_cons.1 h
      · exact List.mem_cons_self
      · exact List.mem_cons_of_mem _ (ih h)

lemma mem_of_mem_firstSeenBy {a : α} (h : a ∈ firstSeenBy key as) : a ∈ as :=
  mem_of_mem_firstSeenAfter h

lemma exists_mem_firstSeenAfter [LawfulBEq β] {seen : List β} {a : α} (ha : a ∈ as)
    (hseen : key a ∉ seen) : ∃ b ∈ firstSeenAfter key seen as, key b = key a := by
  induction as generalizing seen with
  | nil => cases ha
  | cons c as ih =>
    rw [firstSeenAfter]
    obtain rfl | hlater := List.mem_cons.1 ha
    · rw [if_neg (by rwa [List.contains_iff_mem])]
      exact ⟨a, List.mem_cons_self, rfl⟩
    · split_ifs with hc
      · exact ih hlater hseen
      · by_cases heq : key a = key c
        · exact ⟨c, List.mem_cons_self, heq.symm⟩
        · obtain ⟨b, hb, hkey⟩ := ih hlater (List.not_mem_cons_of_ne_of_not_mem heq hseen)
          exact ⟨b, List.mem_cons_of_mem _ hb, hkey⟩

/-- Every element shares its key with a first occurrence. -/
lemma exists_mem_firstSeenBy [LawfulBEq β] {a : α} (ha : a ∈ as) :
    ∃ b ∈ firstSeenBy key as, key b = key a :=
  exists_mem_firstSeenAfter ha List.not_mem_nil

lemma key_notMem_of_mem_firstSeenAfter [LawfulBEq β] {seen : List β} {a : α}
    (h : a ∈ firstSeenAfter key seen as) : key a ∉ seen := by
  induction as generalizing seen with
  | nil => cases h
  | cons b as ih =>
    rw [firstSeenAfter] at h
    split_ifs at h with hb
    · exact ih h
    · obtain rfl | h := List.mem_cons.1 h
      · rwa [List.contains_iff_mem] at hb
      · exact fun hmem => ih h (List.mem_cons_of_mem _ hmem)

lemma nodup_map_firstSeenAfter [LawfulBEq β] (seen : List β) (as : List α) :
    ((firstSeenAfter key seen as).map key).Nodup := by
  induction as generalizing seen with
  | nil => exact List.nodup_nil
  | cons a as ih =>
    rw [firstSeenAfter]
    split_ifs
    · exact ih seen
    · rw [List.map_cons, List.nodup_cons]
      refine ⟨fun hmem => ?_, ih _⟩
      obtain ⟨b, hb, heq⟩ := List.mem_map.1 hmem
      exact key_notMem_of_mem_firstSeenAfter hb (heq ▸ List.mem_cons_self)

/-- No two first occurrences share a key. -/
lemma nodup_map_firstSeenBy [LawfulBEq β] (as : List α) : ((firstSeenBy key as).map key).Nodup :=
  nodup_map_firstSeenAfter [] as

lemma mem_firstSeen_of_mem [LawfulBEq β] {as : List β} {a : β} (h : a ∈ as) : a ∈ firstSeen as := by
  obtain ⟨b, hb, heq⟩ : ∃ b ∈ firstSeenBy id as, id b = id a := exists_mem_firstSeenBy h
  obtain rfl : b = a := heq
  exact hb

lemma mem_firstSeen_iff [LawfulBEq β] {as : List β} {a : β} : a ∈ firstSeen as ↔ a ∈ as :=
  ⟨mem_of_mem_firstSeenBy, mem_firstSeen_of_mem⟩

lemma pairwise_idxOf_firstSeenAfter [LawfulBEq β] (seen as : List β) :
    (firstSeenAfter id seen as).Pairwise fun a b => as.idxOf a < as.idxOf b := by
  induction as generalizing seen with
  | nil => exact .nil
  | cons c as ih =>
    have later : ∀ seen, c ∈ seen → ∀ b ∈ firstSeenAfter id seen as,
        (c :: as).idxOf b = as.idxOf b + 1 := by
      intro seen hc b hb
      have hne : c ≠ b := by
        rintro rfl
        exact key_notMem_of_mem_firstSeenAfter hb hc
      rw [List.idxOf_cons, beq_eq_false_iff_ne.2 hne, cond_false]
    have rest : ∀ seen, c ∈ seen → (firstSeenAfter id seen as).Pairwise
        fun a b => (c :: as).idxOf a < (c :: as).idxOf b := by
      intro seen hc
      refine (ih seen).imp_of_mem fun ha hb hlt => ?_
      rw [later seen hc _ ha, later seen hc _ hb]
      exact Nat.succ_lt_succ hlt
    rw [firstSeenAfter]
    split_ifs with hseen
    · exact rest seen (List.contains_iff_mem.1 hseen)
    · refine .cons (fun b hb => ?_) (rest _ List.mem_cons_self)
      rw [later _ List.mem_cons_self b hb, List.idxOf_cons_self]
      exact Nat.succ_pos _

/-- Without repeats, a list goes on in the order of first occurrence. -/
lemma pairwise_idxOf_firstSeen [LawfulBEq β] (as : List β) :
    (firstSeen as).Pairwise fun a b => as.idxOf a < as.idxOf b :=
  pairwise_idxOf_firstSeenAfter [] as

lemma nodup_firstSeen [LawfulBEq β] (as : List β) : (firstSeen as).Nodup := by
  have h : ((firstSeen as).map id).Nodup := nodup_map_firstSeenBy as
  rwa [List.map_id] at h

end QueryTutor
