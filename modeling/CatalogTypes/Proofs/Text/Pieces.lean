import CatalogTypes.Text

/-! # Texts taken apart

A text that was put together of pieces can be taken apart again where the end of each piece shows:
a run of code points of one class ends at the first that is of another, and pieces between
separators end at the next separator or at what closes them.
-/
namespace CatalogTypes.Text

theorem after?_append (opening t : Text) : after? opening (opening ++ t) = some t := by
  induction opening with
  | nil => rfl
  | cons o opening ih => rw [List.cons_append, after?, if_pos rfl, ih]

theorem eq_append_of_after? {opening t rest : Text} (h : after? opening t = some rest) :
    t = opening ++ rest := by
  induction opening generalizing t with
  | nil =>
    cases h
    rfl
  | cons o opening ih =>
    cases t with
    | nil => cases h
    | cons c t =>
      rw [after?] at h
      split at h
      next hc => rw [ih h, hc, List.cons_append]
      · cases h

/-- A text does not go on with a code point of a class. -/
def Ends (p : CodePoint → Bool) (t : Text) : Prop := ∀ c ∈ t.head?, p c = false

theorem ends_cons {p : CodePoint → Bool} {c : CodePoint} (h : p c = false) (t : Text) :
    Ends p (c :: t) := by
  intro d hd
  cases hd
  exact h

theorem Ends.takeWhile_eq_nil {p : CodePoint → Bool} {t : Text} (h : Ends p t) :
    t.takeWhile p = [] := by
  cases t with
  | nil => rfl
  | cons c t => simp [h c rfl]

theorem Ends.dropWhile_eq_self {p : CodePoint → Bool} {t : Text} (h : Ends p t) :
    t.dropWhile p = t := by
  cases t with
  | nil => rfl
  | cons c t => rw [List.dropWhile_cons, h c rfl, if_neg Bool.false_ne_true]

theorem takeWhile_append_of_ends {p : CodePoint → Bool} {s t : Text} (hs : ∀ c ∈ s, p c)
    (ht : Ends p t) :
    (s ++ t).takeWhile p = s := by
  rw [List.takeWhile_append_of_pos hs, ht.takeWhile_eq_nil, List.append_nil]

theorem dropWhile_append_of_ends {p : CodePoint → Bool} {s t : Text} (hs : ∀ c ∈ s, p c)
    (ht : Ends p t) :
    (s ++ t).dropWhile p = t := by
  rw [List.dropWhile_append_of_pos hs, ht.dropWhile_eq_self]

/-- Runs of one class that are followed by no more of it are told apart from what follows. -/
theorem run_append_inj {p : CodePoint → Bool} {s s' t t' : Text} (hs : ∀ c ∈ s, p c)
    (hs' : ∀ c ∈ s', p c) (ht : Ends p t) (ht' : Ends p t') (h : s ++ t = s' ++ t') :
    s = s' ∧ t = t' := by
  have hst := congrArg (List.takeWhile p) h
  rw [takeWhile_append_of_ends hs ht, takeWhile_append_of_ends hs' ht'] at hst
  subst hst
  exact ⟨rfl, List.append_cancel_left h⟩

def afterFirst (separator : Text) : List Text → Text
  | [] => []
  | piece :: pieces => separator ++ List.intercalate separator (piece :: pieces)

theorem intercalate_cons (separator piece : Text) (pieces : List Text) :
    List.intercalate separator (piece :: pieces) = piece ++ afterFirst separator pieces := by
  cases pieces with
  | nil => simp [afterFirst]
  | cons next rest => simp [afterFirst, List.intercalate_cons_cons]

/-- What holds of the pieces and of their separator holds of all of it, if joining two texts keeps
it. -/
theorem intercalate_induction {motive : Text → Prop} {separator : Text} {pieces : List Text}
    (hnil : motive []) (happend : ∀ s t, motive s → motive t → motive (s ++ t))
    (hs : motive separator) (h : ∀ piece ∈ pieces, motive piece) :
    motive (List.intercalate separator pieces) := by
  induction pieces with
  | nil => exact hnil
  | cons piece pieces ih =>
    obtain ⟨hp, hps⟩ := List.forall_mem_cons.mp h
    cases pieces with
    | nil =>
      rw [List.intercalate_singleton]
      exact hp
    | cons next rest =>
      rw [List.intercalate_cons_cons]
      exact happend _ _ (happend _ _ hp hs) (ih hps)

/-- What can follow a piece: a separator, what closes the pieces, or nothing. -/
def Follows (c d : CodePoint) (t : Text) : Prop := ∀ e ∈ t.head?, e = c ∨ e = d

/-- Two pieces are told apart from each other and from what can follow them. -/
def ToldApart {α : Type} (written : α → Text) (c d : CodePoint) (x x' : α) : Prop :=
  ∀ u u' : Text, Follows c d u → Follows c d u' → written x ++ u = written x' ++ u' →
    x = x' ∧ u = u'

/-- Pieces between separators are told apart from each other and from what follows, if each piece
is told apart from a separator and from what follows. -/
theorem intercalate_append_inj {α : Type} {written : α → Text} {c d : CodePoint} (hcd : c ≠ d)
    {separator : Text} {a a' : α} {rest rest' : List α} {t t' : Text}
    (hw : ∀ x ∈ a :: rest, ∀ x' ∈ a' :: rest', ToldApart written c d x x')
    (h : List.intercalate (c :: separator) ((a :: rest).map written) ++ d :: t =
      List.intercalate (c :: separator) ((a' :: rest').map written) ++ d :: t') :
    a :: rest = a' :: rest' ∧ t = t' := by
  induction rest generalizing a a' rest' with
  | nil =>
    simp only [List.map_cons, intercalate_cons, List.append_assoc, List.map_nil] at h
    cases rest' with
    | nil =>
      obtain ⟨rfl, ht⟩ :=
        hw a List.mem_cons_self a' List.mem_cons_self _ _ (by simp [Follows, afterFirst])
        (by simp [Follows, afterFirst]) h
      exact ⟨rfl, by simpa [afterFirst] using ht⟩
    | cons b' rest' =>
      obtain ⟨_, ht⟩ :=
        hw a List.mem_cons_self a' List.mem_cons_self _ _ (by simp [Follows, afterFirst])
        (by simp [Follows, afterFirst]) h
      simp only [afterFirst, List.map_cons, List.nil_append, List.cons_append,
        List.cons.injEq] at ht
      exact absurd ht.1.symm hcd
  | cons b rest ih =>
    simp only [List.map_cons, intercalate_cons, List.append_assoc] at h
    cases rest' with
    | nil =>
      obtain ⟨_, ht⟩ :=
        hw a List.mem_cons_self a' List.mem_cons_self _ _ (by simp [Follows, afterFirst])
        (by simp [Follows, afterFirst]) h
      simp only [afterFirst, List.map_nil, List.nil_append, List.cons_append, List.cons.injEq] at ht
      exact absurd ht.1 hcd
    | cons b' rest' =>
      obtain ⟨rfl, ht⟩ :=
        hw a List.mem_cons_self a' List.mem_cons_self _ _ (by simp [Follows, afterFirst])
        (by simp [Follows, afterFirst]) h
      simp only [afterFirst, List.map_cons, List.cons_append, List.append_assoc, List.cons.injEq,
        true_and] at ht
      obtain ⟨hr, ht⟩ :=
        ih (fun x hx x' hx' => hw x (List.mem_cons_of_mem _ hx) x' (List.mem_cons_of_mem _ hx'))
        (List.append_cancel_left ht)
      exact ⟨by rw [hr], ht⟩

/-- If no piece begins with what closes them, there may also be no pieces. -/
theorem intercalate_closed_inj {α : Type} {written : α → Text} {c d : CodePoint} (hcd : c ≠ d)
    {separator : Text} {as as' : List α} {t t' : Text}
    (hd : ∀ x ∈ as, ∀ u u' : Text, written x ++ u ≠ d :: u')
    (hd' : ∀ x ∈ as', ∀ u u' : Text, written x ++ u ≠ d :: u')
    (hw : ∀ x ∈ as, ∀ x' ∈ as', ToldApart written c d x x')
    (h : List.intercalate (c :: separator) (as.map written) ++ d :: t =
      List.intercalate (c :: separator) (as'.map written) ++ d :: t') : as = as' ∧ t = t' := by
  cases as with
  | nil =>
    cases as' with
    | nil => exact ⟨rfl, by simpa using h⟩
    | cons a' rest' =>
      rw [List.map_cons, intercalate_cons, List.append_assoc] at h
      exact absurd h.symm (hd' a' List.mem_cons_self _ _)
  | cons a rest =>
    cases as' with
    | nil =>
      rw [List.map_cons, intercalate_cons, List.append_assoc] at h
      exact absurd h (hd a List.mem_cons_self _ _)
    | cons a' rest' => exact intercalate_append_inj hcd hw h

section Split
variable {separator : CodePoint} {t piece : Text}

theorem split_ne_nil (separator : CodePoint) (t : Text) : t.split separator ≠ [] := by
  cases t with
  | nil => simp [split]
  | cons c t =>
    rw [split]
    split
    · simp
    · split <;> simp

theorem split_cons_of_ne {c : CodePoint} (hc : c ≠ separator) :
    ∃ piece pieces, split separator t = piece :: pieces ∧
      split separator (c :: t) = (c :: piece) :: pieces := by
  obtain ⟨piece, pieces, hp⟩ := List.exists_cons_of_ne_nil (split_ne_nil separator t)
  exact ⟨piece, pieces, hp, by rw [split, if_neg hc, hp]⟩

theorem head?_of_split {c : CodePoint} {first : Text} {rest : List Text}
    (ht : t.split separator = first :: rest) (hc : first.head? = some c) : t.head? = some c := by
  cases t with
  | nil =>
    cases ht
    cases hc
  | cons d t =>
    by_cases hd : d = separator
    · rw [split, if_pos hd] at ht
      cases ht
      cases hc
    · obtain ⟨piece, pieces, _, hpieces⟩ := split_cons_of_ne (t := t) hd
      rw [hpieces] at ht
      cases ht
      exact hc

theorem split_of_not_mem (h : separator ∉ t) : t.split separator = [t] := by
  induction t with
  | nil => rfl
  | cons c t ih =>
    rw [List.mem_cons, not_or] at h
    simp [split, Ne.symm h.1, ih h.2]

/-- A separator ends the pieces before it, whatever follows. -/
theorem split_append (s t : Text) :
    (s ++ separator :: t).split separator = s.split separator ++ t.split separator := by
  induction s with
  | nil => simp [split]
  | cons c s ih =>
    by_cases hc : c = separator
    · simp [split, hc, ih]
    · obtain ⟨piece, pieces, hs, hcs⟩ := split_cons_of_ne (t := s) hc
      obtain ⟨_, _, hst, hcst⟩ := split_cons_of_ne (t := s ++ separator :: t) hc
      rw [ih, hs, List.cons_append, List.cons.injEq] at hst
      obtain ⟨rfl, rfl⟩ := hst
      rw [List.cons_append, hcst, hcs, List.cons_append]

theorem not_mem_of_mem_split (h : piece ∈ t.split separator) : separator ∉ piece := by
  induction t generalizing piece with
  | nil =>
    rw [List.mem_singleton.mp h]
    exact List.not_mem_nil
  | cons c t ih =>
    by_cases hc : c = separator
    · rw [split, if_pos hc, List.mem_cons] at h
      rcases h with rfl | h
      · exact List.not_mem_nil
      · exact ih h
    · obtain ⟨first, rest, ht, hct⟩ := split_cons_of_ne (t := t) hc
      rw [hct, List.mem_cons] at h
      rcases h with rfl | h
      · rw [List.mem_cons, not_or]
        exact ⟨Ne.symm hc, ih (ht ▸ List.mem_cons_self)⟩
      · exact ih (ht ▸ List.mem_cons_of_mem _ h)

theorem split_intercalate {pieces : List Text} (hne : pieces ≠ [])
    (h : ∀ piece ∈ pieces, separator ∉ piece) :
    split separator (List.intercalate [separator] pieces) = pieces := by
  induction pieces with
  | nil => exact absurd rfl hne
  | cons piece pieces ih =>
    obtain ⟨hp, hps⟩ := List.forall_mem_cons.mp h
    cases pieces with
    | nil => rw [List.intercalate_singleton, split_of_not_mem hp]
    | cons next rest =>
      rw [List.intercalate_cons_cons, List.append_assoc, List.singleton_append, split_append,
        split_of_not_mem hp, ih (List.cons_ne_nil next rest) hps, List.singleton_append]

theorem split_cons_eq {c : CodePoint} {first : Text} {rest : List Text} (hc : c ≠ separator)
    (ht : t.split separator = first :: rest) : split separator (c :: t) = (c :: first) :: rest := by
  rw [split, if_neg hc, ht]

theorem intercalate_split (separator : CodePoint) (t : Text) :
    List.intercalate [separator] (t.split separator) = t := by
  induction t with
  | nil => rfl
  | cons c t ih =>
    obtain ⟨first, rest, ht⟩ := List.exists_cons_of_ne_nil (split_ne_nil separator t)
    by_cases hc : c = separator
    · rw [split, if_pos hc, ht, List.intercalate_cons_cons, ← ht, ih, hc]
      rfl
    · rw [split_cons_eq hc ht, intercalate_cons, List.cons_append, ← intercalate_cons, ← ht, ih]

end Split

end CatalogTypes.Text
