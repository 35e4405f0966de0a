import CatalogTypes.Identifier.Pool
import CatalogTypes.Proofs.Identifier.Names
import CatalogTypes.Proofs.Text.Digits

/-! # What a pool hands out

A name is given the first candidate that was not handed out before: its base, or else the base with
the least number from two on. The search for it has no bound of its own, but the candidates of a
base differ, so a pool cannot hold one more of them than it is large.
-/
namespace CatalogTypes.Identifier
open Text

namespace Pool

theorem wellFormed_numbered {base : Text} (h : WellFormed base) (n : Nat) :
    WellFormed (numbered base n) := by
  obtain ⟨c, rest, rfl, hc, hr⟩ := h
  refine ⟨c, rest ++ ofNat n, rfl, hc, ?_⟩
  intro d hd
  rcases List.mem_append.mp hd with hd | hd
  · exact hr d hd
  · exact isAlphanumeric_of_isDigit (isDigit_of_mem_ofNat hd)

theorem numbered_injective (base : Text) : Function.Injective (numbered base) :=
  fun _ _ h => ofNat_injective (List.append_cancel_left h)

theorem numbered_ne (base : Text) (n : Nat) : numbered base n ≠ base :=
  fun h => ofNat_ne_nil n (List.append_right_eq_self.mp h)

/-- The search for a fresh identifier, however long it takes: one candidate after the other is
tested, and a candidate that is taken is followed by the base with the next number. -/
inductive Search (taken : List Text) (base : Text) :
    (candidate : Text) → (next tests : Nat) → (found : Text) → Prop
  | fresh {candidate : Text} {next : Nat} (h : candidate ∉ taken) :
    Search taken base candidate next 1 candidate
  | taken {candidate found : Text} {next tests : Nat} (h : candidate ∈ taken)
      (hs : Search taken base (numbered base next) (next + 1) tests found) :
      Search taken base candidate next (tests + 1) found

section Search
variable {taken : List Text} {base candidate found found' : Text} {next tests tests' : Nat}

theorem Search.not_mem (h : Search taken base candidate next tests found) : found ∉ taken := by
  induction h with
  | fresh h => exact h
  | taken _ _ ih => exact ih

theorem Search.wellFormed (h : Search taken base candidate next tests found) (hb : WellFormed base)
    (hc : WellFormed candidate) : WellFormed found := by
  induction h with
  | fresh _ => exact hc
  | taken _ _ ih => exact ih (wellFormed_numbered hb _)

theorem Search.congr {given : List Text} (hg : ∀ t, t ∈ given ↔ t ∈ taken)
    (h : Search taken base candidate next tests found) :
    Search given base candidate next tests found := by
  induction h with
  | fresh h => exact .fresh (mt (hg _).mp h)
  | taken h _ ih => exact .taken ((hg _).mpr h) ih

theorem Search.unique (h : Search taken base candidate next tests found)
    (h' : Search taken base candidate next tests' found') : tests' = tests ∧ found' = found := by
  induction h generalizing tests' found' with
  | fresh hf =>
    cases h' with
    | fresh _ => exact ⟨rfl, rfl⟩
    | taken ht _ => exact absurd ht hf
  | taken ht _ ih =>
    cases h' with
    | fresh hf => exact absurd ht hf
    | taken _ hs =>
      obtain ⟨hn, hi⟩ := ih hs
      exact ⟨by rw [hn], hi⟩

/-- Nothing that comes before the identifier that is found was fresh. -/
theorem Search.least (h : Search taken base candidate next tests found) :
    candidate ∉ taken ∧ found = candidate ∨
      candidate ∈ taken ∧ ∃ n ≥ next, found = numbered base n ∧ ∀ m ≥ next, m < n →
      numbered base m ∈ taken := by
  induction h with
  | fresh h => exact .inl ⟨h, rfl⟩
  | @taken candidate found next tests h _ ih =>
    refine .inr ⟨h, ?_⟩
    rcases ih with ⟨_, rfl⟩ | ⟨ht, n, hn, rfl, hbefore⟩
    · exact ⟨next, Nat.le_refl next, rfl, fun m hm hl => absurd hm (Nat.not_le.mpr hl)⟩
    · refine ⟨n, Nat.le_of_succ_le hn, rfl, fun m hm hl => ?_⟩
      rcases Nat.eq_or_lt_of_le hm with rfl | hm
      · exact ht
      · exact hbefore m hm hl

end Search

variable (pool : Pool) (base : Text)

theorem exists_not_taken {f : Nat → Text} (hf : Function.Injective f) :
    ∃ i ≤ pool.size, f i ∉ pool.taken := by
  apply Classical.byContradiction
  intro hall
  have hd : ((List.range (pool.size + 1)).map f).Nodup :=
    List.pairwise_map.mpr (List.nodup_range.imp fun hij he => hij (hf he))
  have hs : (List.range (pool.size + 1)).map f ⊆ pool.taken := by
    intro t ht
    obtain ⟨i, hi, rfl⟩ := List.mem_map.mp ht
    exact Classical.byContradiction fun hn =>
      hall ⟨i, Nat.lt_succ_iff.mp (List.mem_range.mp hi), hn⟩
  have hl := hd.length_le_of_subset hs
  rw [List.length_map, List.length_range] at hl
  exact absurd hl (Nat.not_succ_le_self _)

def candidate (base : Text) : Nat → Text
  | 0 => base
  | i + 1 => numbered base (2 + i)

theorem candidate_injective : Function.Injective (candidate base) := by
  intro i j h
  cases i with
  | zero =>
    cases j with
    | zero => rfl
    | succ j => exact absurd h.symm (numbered_ne base _)
  | succ i =>
    cases j with
    | zero => exact absurd h (numbered_ne base _)
    | succ j => rw [Nat.add_left_cancel (numbered_injective base h)]

/-- As long as a candidate is left that is fresh, it is not missed for want of tries. -/
theorem search_firstFresh {n tries : Nat} (h : ∃ i < tries, numbered base (n + i) ∉ pool.taken) :
    ∃ tests ≤ tries, Search pool.taken base (numbered base n) (n + 1) tests
      (pool.firstFresh base n tries) := by
  induction tries generalizing n with
  | zero =>
    obtain ⟨i, hi, _⟩ := h
    exact absurd hi (Nat.not_lt_zero i)
  | succ tries ih =>
    unfold firstFresh
    split
    next ht =>
      have hn : numbered base n ∈ pool.taken := by simpa [contains] using ht
      obtain ⟨i, hi, hf⟩ := h
      obtain ⟨j, rfl⟩ : ∃ j, i = j + 1 := by
        cases i with
        | zero => exact absurd hn hf
        | succ j => exact ⟨j, rfl⟩
      obtain ⟨tests, hle, hs⟩ :=
        ih (n := n + 1) ⟨j, by omega, by rwa [Nat.add_right_comm, Nat.add_assoc]⟩
      exact ⟨tests + 1, by omega, .taken hn hs⟩
    next hf => exact ⟨1, by omega, .fresh (by simpa [contains] using hf)⟩

/-- The search ends, after one test more than there are identifiers at most, with what the pool
gives. -/
theorem search_fresh : ∃ tests ≤ pool.size + 1, Search pool.taken base base 2 tests
    (pool.fresh base) := by
  unfold fresh
  split
  next ht =>
    have hb : base ∈ pool.taken := by simpa [contains] using ht
    obtain ⟨i, hi, hf⟩ := pool.exists_not_taken (candidate_injective base)
    obtain ⟨j, rfl⟩ : ∃ j, i = j + 1 := by
      cases i with
      | zero => exact absurd hb hf
      | succ j => exact ⟨j, rfl⟩
    obtain ⟨tests, hle, hs⟩ := search_firstFresh pool base ⟨j, hi, hf⟩
    exact ⟨tests + 1, by omega, .taken hb hs⟩
  next hf => exact ⟨1, by omega, .fresh (by simpa [contains] using hf)⟩

theorem fresh_not_taken : pool.fresh base ∉ pool.taken := by
  obtain ⟨_, _, h⟩ := pool.search_fresh base
  exact h.not_mem

variable {base} in
theorem wellFormed_fresh (h : WellFormed base) : WellFormed (pool.fresh base) := by
  obtain ⟨_, _, hs⟩ := pool.search_fresh base
  exact hs.wellFormed h h

def assignAll (pool : Pool) : List Text → List Text
  | [] => []
  | name :: names => (pool.assign name).1.identifier :: (pool.assign name).2.assignAll names

def after (pool : Pool) : List Text → Pool
  | [] => pool
  | name :: names => (pool.assign name).2.after names

theorem not_taken_of_mem_assignAll {pool : Pool} {names : List Text} {identifier : Text}
    (h : identifier ∈ pool.assignAll names) : identifier ∉ pool.taken := by
  induction names generalizing pool with
  | nil => cases h
  | cons name names ih =>
    rcases List.mem_cons.mp h with rfl | h
    · exact pool.fresh_not_taken (ofName name)
    · intro ht
      exact ih h (List.mem_cons_of_mem _ ht)

theorem nodup_assignAll (names : List Text) : (pool.assignAll names).Nodup := by
  induction names generalizing pool with
  | nil => exact .nil
  | cons name names ih =>
    refine List.nodup_cons.mpr ⟨?_, ih _⟩
    intro h
    exact not_taken_of_mem_assignAll h List.mem_cons_self

theorem wellFormed_of_mem_assignAll (names : List Text) :
    ∀ identifier ∈ pool.assignAll names, WellFormed identifier := by
  induction names generalizing pool with
  | nil => exact List.forall_mem_nil _
  | cons name names ih =>
    exact List.forall_mem_cons.mpr ⟨pool.wellFormed_fresh (wellFormed_ofName name), ih _⟩

theorem length_assignAll (names : List Text) : (pool.assignAll names).length = names.length := by
  induction names generalizing pool with
  | nil => rfl
  | cons name names ih => rw [assignAll, List.length_cons, List.length_cons, ih]

theorem taken_after (names : List Text) :
    (pool.after names).taken = (pool.assignAll names).reverse ++ pool.taken := by
  induction names generalizing pool with
  | nil => rfl
  | cons name names ih =>
    rw [after, ih, assignAll, List.reverse_cons, List.append_assoc]
    rfl

theorem assignAll_append (names more : List Text) :
    pool.assignAll (names ++ more) = pool.assignAll names ++ (pool.after names).assignAll more := by
  induction names generalizing pool with
  | nil => rfl
  | cons name names ih => rw [List.cons_append, assignAll, ih, assignAll, List.cons_append, after]

theorem after_append (names more : List Text) :
    pool.after (names ++ more) = (pool.after names).after more := by
  induction names generalizing pool with
  | nil => rfl
  | cons name names ih => rw [List.cons_append, after, ih, after]

/-- A name gets its base where that was not given before, and else the base with the least number
from two on for which that is so. The search for it ends in one way, after at most one test more
than identifiers were given, and it is reported if its outcome is another than the base. -/
structure Assignment.Minimal (given : List Text) (a : Assignment) : Prop where
  search : ∃ tests ≤ given.length + 1, ∀ n found,
    Search given a.base a.base 2 n found ↔ n = tests ∧ found = a.identifier
  base : a.base ∉ given → a.identifier = a.base
  numbered : a.base ∈ given → ∃ n ≥ 2, a.identifier = Pool.numbered a.base n ∧
    Pool.numbered a.base n ∉ given ∧
    ∀ m ≥ 2, m < n → Pool.numbered a.base m ∈ given
  report : a.report = if a.identifier = a.base then [] else [⟨.warning, a.warning⟩]

theorem minimal_assign {given : List Text} (hg : ∀ t, t ∈ given ↔ t ∈ pool.taken)
    (hl : given.length = pool.size) (name : Text) : (pool.assign name).1.Minimal given := by
  obtain ⟨tests, hle, hs⟩ := pool.search_fresh (ofName name)
  have hsearch := hs.congr hg
  refine ⟨⟨tests, by rwa [hl], fun n found => ⟨hsearch.unique, ?_⟩⟩, ?_, ?_, ?_⟩
  · rintro ⟨rfl, rfl⟩
    exact hsearch
  · intro hb
    rcases hsearch.least with ⟨_, hf⟩ | ⟨ht, _⟩
    · exact hf
    · exact absurd ht hb
  · intro hb
    rcases hsearch.least with ⟨hn, _⟩ | ⟨_, n, hn, hf, hbefore⟩
    · exact absurd hb hn
    · exact ⟨n, hn, hf, hf ▸ hsearch.not_mem, hbefore⟩
  · simp [Assignment.report, Assignment.collides]

/-- A new pool gives every name the first of its candidates that is left, and never the same
identifier twice. It holds the identifiers that it has given, and nothing else. -/
theorem assignments_minimal (names : List Text) :
    (empty.assignAll names).Nodup ∧ (∀ identifier ∈ empty.assignAll names, WellFormed identifier) ∧
      (∀ t, (empty.after names).contains t ↔ t ∈ empty.assignAll names) ∧
      (empty.after names).size = names.length ∧
      ∀ name, ((empty.after names).assign name).1.name = name ∧
        ((empty.after names).assign name).1.base = ofName name ∧
        ((empty.after names).assign name).1.Minimal (empty.assignAll names) ∧
        empty.assignAll (names ++ [name]) =
          empty.assignAll names ++ [((empty.after names).assign name).1.identifier] ∧
        empty.after (names ++ [name]) = ((empty.after names).assign name).2 := by
  have htaken : (empty.after names).taken = (empty.assignAll names).reverse := by
    rw [taken_after]
    exact List.append_nil _
  have hmem (t : Text) : t ∈ empty.assignAll names ↔ t ∈ (empty.after names).taken := by
    rw [htaken, List.mem_reverse]
  have hlength : (empty.assignAll names).length = (empty.after names).size := by
    rw [size, htaken, List.length_reverse]
  refine ⟨empty.nodup_assignAll names, empty.wellFormed_of_mem_assignAll names, ?_, ?_, ?_⟩
  · intro t
    rw [contains, List.contains_iff_mem, hmem]
  · rw [← hlength, length_assignAll]
  · intro name
    refine ⟨rfl, rfl, minimal_assign _ hmem hlength name, ?_, ?_⟩
    · rw [assignAll_append]
      rfl
    · rw [after_append]
      rfl

/-- The number of one identifier can be the end of another. -/
example : Pool.fresh ⟨["Hero2", "Hero"]⟩ "Hero" = text "Hero3" ∧
    Pool.fresh ⟨["Hero2", "Hero"]⟩ "Hero2" = text "Hero22" := by decide

end Pool
end CatalogTypes.Identifier
