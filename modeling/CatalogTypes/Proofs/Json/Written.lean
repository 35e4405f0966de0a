import CatalogTypes.Proofs.Json.Strings
import CatalogTypes.Proofs.Text.Digits

/-! # Written values

The line that a value is written on tells the value and where it ends, as long as it is not
followed by more digits. Doubles are left out: nothing is said about the digits they are given.
-/
namespace CatalogTypes.Json
open Text

inductive FloatFree : Json → Prop
  | null : FloatFree .null
  | bool (value : Bool) : FloatFree (.bool value)
  | int (value : Int) : FloatFree (.int value)
  | string (value : Text) : FloatFree (.string value)
  | array {items : List Json} (h : ∀ item ∈ items, FloatFree item) : FloatFree (.array items)
  | object {members : List (Text × Json)} (h : ∀ m ∈ members, FloatFree m.2) :
    FloatFree (.object members)

/-- What the first code point of a written value tells about it. -/
inductive Form where
  | null
  | bool (value : Bool)
  | number
  | string
  | array
  | object
  deriving DecidableEq

def form : Json → Form
  | .null => .null
  | .bool value => .bool value
  | .int _ | .float _ => .number
  | .string _ => .string
  | .array _ => .array
  | .object _ => .object

def formOf? (c : CodePoint) : Option Form :=
  if c = 'n' then some .null
  else if c = 't' then some (.bool true)
  else if c = 'f' then some (.bool false)
  else if c = .quotationMark then some .string
  else if c = '[' then some .array
  else if c = '\x7b' then some .object
  else if c = '-' ∨ c.isDigit then some .number
  else none

theorem formOf?_of_isDigit {c : CodePoint} (h : c.isDigit) : formOf? c = some .number := by
  have hne {d : CodePoint} (hd : d.isDigit = false) : c ≠ d := by
    rintro rfl
    rw [hd] at h
    contradiction
  unfold formOf?
  rw [if_neg (hne (by decide)), if_neg (hne (by decide)), if_neg (hne (by decide)),
    if_neg (hne (by decide)), if_neg (hne (by decide)), if_neg (hne (by decide)), if_pos (.inr h)]

theorem exists_write_eq_cons {v : Json} (hv : v.FloatFree) :
    ∃ c t, v.write .unicode = c :: t ∧ formOf? c = some v.form := by
  cases hv with
  | null => exact ⟨'n', "ull", rfl, by decide⟩
  | bool value =>
    cases value with
    | true => exact ⟨'t', "rue", rfl, by decide⟩
    | false => exact ⟨'f', "alse", rfl, by decide⟩
  | int value =>
    obtain ⟨m, _, hm⟩ | ⟨m, _, hm⟩ := ofInt_cases value
    · cases hn : ofNat m with
      | nil => exact absurd hn (ofNat_ne_nil m)
      | cons c t =>
        have hc : c.isDigit := isDigit_of_mem_ofNat (n := m) (by simp [hn])
        exact ⟨c, t, by rw [write, hm, hn], formOf?_of_isDigit hc⟩
    · exact ⟨'-', ofNat (m + 1), by rw [write, hm], rfl⟩
  | string value => exact ⟨.quotationMark, _, rfl, rfl⟩
  | array _ => exact ⟨'[', _, rfl, rfl⟩
  | object _ => exact ⟨'\x7b', _, rfl, rfl⟩

theorem form_eq_of_write {v v' : Json} (hv : v.FloatFree) (hv' : v'.FloatFree) {t t' : Text}
    (h : v.write .unicode ++ t = v'.write .unicode ++ t') : v.form = v'.form := by
  obtain ⟨c, r, hc, hf⟩ := exists_write_eq_cons hv
  obtain ⟨c', r', hc', hf'⟩ := exists_write_eq_cons hv'
  rw [hc, hc', List.cons_append, List.cons_append, List.cons.injEq] at h
  rw [h.1, hf'] at hf
  exact (Option.some.inj hf).symm

theorem writeItems_eq (charset : Charset) (items : List Json) :
    writeItems charset items = List.intercalate (text ", ") (items.map (write charset)) := by
  induction items with
  | nil => rfl
  | cons item rest ih =>
    cases rest with
    | nil => simp [writeItems]
    | cons next rest => simp [writeItems, ih, List.intercalate_cons_cons]

def writeMember (charset : Charset) (m : Text × Json) : Text :=
  writeString charset m.1 ++ ": " ++ m.2.write charset

theorem writeMembers_eq (charset : Charset) (members : List (Text × Json)) :
    writeMembers charset members =
      List.intercalate (text ", ") (members.map (writeMember charset)) := by
  induction members with
  | nil => rfl
  | cons m rest ih =>
    obtain ⟨name, value⟩ := m
    cases rest with
    | nil => simp [writeMembers, writeMember]
    | cons next rest => simp [writeMembers, writeMember, ih, List.intercalate_cons_cons]

theorem write_array_append (items : List Json) (t : Text) :
    write .unicode (.array items) ++ t =
      ('[' : CodePoint) :: (List.intercalate (text ", ") (items.map (write .unicode)) ++
        (']' : CodePoint) :: t) := by
  rw [← writeItems_eq]
  simp only [write, List.append_assoc]
  rfl

theorem write_object_append (members : List (Text × Json)) (t : Text) :
    write .unicode (.object members) ++ t = ('\x7b' : CodePoint) ::
      (List.intercalate (text ", ") (members.map (writeMember .unicode)) ++
        ('\x7d' : CodePoint) :: t) := by
  rw [← writeMembers_eq]
  simp only [write, List.append_assoc]
  rfl

theorem ends_of_separators {c d : CodePoint} (hc : c.isDigit = false) (hd : d.isDigit = false)
    {t : Text} (h : Follows c d t) : Ends CodePoint.isDigit t := by
  intro e he
  rcases h e he with rfl | rfl
  · exact hc
  · exact hd

theorem write_append_ne_cons {v : Json} (hv : v.FloatFree) {c : CodePoint} (hc : formOf? c = none)
    (t t' : Text) :
    v.write .unicode ++ t ≠ c :: t' := by
  intro h
  obtain ⟨d, r, hd, hf⟩ := exists_write_eq_cons hv
  rw [hd, List.cons_append, List.cons.injEq] at h
  rw [h.1, hc] at hf
  contradiction

theorem writeMember_append_ne_cons {c : CodePoint} (hc : c ≠ .quotationMark) (m : Text × Json)
    (t t' : Text) :
    writeMember .unicode m ++ t ≠ c :: t' := by
  intro h
  exact hc (List.cons.inj h).1.symm

/-- Two values are told apart wherever they are followed by no digit. -/
theorem write_append_inj {v v' : Json} (hv : v.FloatFree) (hv' : v'.FloatFree) {t t' : Text}
    (ht : Ends CodePoint.isDigit t) (ht' : Ends CodePoint.isDigit t')
    (h : v.write .unicode ++ t = v'.write .unicode ++ t') : v = v' ∧ t = t' := by
  induction hv generalizing v' t t' with
  | null =>
    have hf := form_eq_of_write .null hv' h
    cases hv' with
    | null => exact ⟨rfl, List.append_cancel_left h⟩
    | _ => cases hf
  | bool value =>
    have hf := form_eq_of_write (.bool value) hv' h
    cases hv' with
    | bool value' =>
      cases hf
      exact ⟨rfl, List.append_cancel_left h⟩
    | _ => cases hf
  | int n =>
    have hf := form_eq_of_write (.int n) hv' h
    cases hv' with
    | int n' =>
      obtain ⟨rfl, hr⟩ := ofInt_append_inj ht ht' (by simpa only [write] using h)
      exact ⟨rfl, hr⟩
    | _ => cases hf
  | string s =>
    have hf := form_eq_of_write (.string s) hv' h
    cases hv' with
    | string s' =>
      obtain ⟨rfl, hr⟩ := writeString_append_inj (by simpa only [write] using h)
      exact ⟨rfl, hr⟩
    | _ => cases hf
  | @array items hi ih =>
    have hf := form_eq_of_write (.array hi) hv' h
    cases hv' with
    | @array items' hi' =>
      rw [write_array_append, write_array_append] at h
      have hclose {items : List Json} (hi : ∀ x ∈ items, x.FloatFree) (x : Json) (hx : x ∈ items) :
          ∀ u u' : Text, x.write .unicode ++ u ≠ (']' : CodePoint) :: u' :=
        write_append_ne_cons (hi x hx) (by decide)
      have hitem : ∀ x ∈ items, ∀ x' ∈ items', ToldApart (write .unicode) ',' ']' x x' := by
        intro x hx x' hx' u u' hu hu' hxx
        have hn : Ends CodePoint.isDigit u := ends_of_separators (by decide) (by decide) hu
        have hn' : Ends CodePoint.isDigit u' := ends_of_separators (by decide) (by decide) hu'
        exact ih x hx (hi' x' hx') hn hn' hxx
      obtain ⟨rfl, hr⟩ :=
        intercalate_closed_inj (by decide) (hclose hi) (hclose hi') hitem (List.cons.inj h).2
      exact ⟨rfl, hr⟩
    | _ => cases hf
  | @object members hi ih =>
    have hf := form_eq_of_write (.object hi) hv' h
    cases hv' with
    | @object members' hi' =>
      rw [write_object_append, write_object_append] at h
      have hclose (x : Text × Json) :
          ∀ u u' : Text, writeMember .unicode x ++ u ≠ ('\x7d' : CodePoint) :: u' :=
        writeMember_append_ne_cons (by decide) x
      have hmember : ∀ x ∈ members, ∀ x' ∈ members',
          ToldApart (writeMember .unicode) ',' '\x7d' x x' := by
        intro x hx x' hx' u u' hu hu' hxx
        have hn : Ends CodePoint.isDigit u := ends_of_separators (by decide) (by decide) hu
        have hn' : Ends CodePoint.isDigit u' := ends_of_separators (by decide) (by decide) hu'
        simp only [writeMember, List.append_assoc] at hxx
        obtain ⟨hname, hxx⟩ := writeString_append_inj hxx
        obtain ⟨hvalue, hxx⟩ := ih x hx (hi' x' hx') hn hn' (List.append_cancel_left hxx)
        exact ⟨Prod.ext hname hvalue, hxx⟩
      obtain ⟨rfl, hr⟩ :=
        intercalate_closed_inj (by decide) (fun x _ => hclose x) (fun x _ => hclose x) hmember
        (List.cons.inj h).2
      exact ⟨rfl, hr⟩
    | _ => cases hf

end CatalogTypes.Json
