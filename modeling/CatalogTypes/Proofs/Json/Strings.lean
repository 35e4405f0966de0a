import CatalogTypes.Json.Decode
import CatalogTypes.Json.Encode

/-! # Written strings

The reader takes back any string as it was written, whatever follows it, so a written string shows
where it ends.
-/
namespace CatalogTypes.Json

theorem hexDigit?_digitChar : ∀ n < 16, (CodePoint.ofChar (Nat.digitChar n)).hexDigit? =
    some n := by decide

theorem hexEscape?_hex {n : Nat} (h : n < 0x10000) (c : CodePoint) (rest : Text) :
    hexEscape? (Text.hex 4 n ++ c :: rest) = some (Fin.ofNat 0x110000 n, c :: rest) := by
  have hd (i : Nat) := hexDigit?_digitChar (n >>> (4 * i) % 16) (Nat.mod_lt _ (by decide))
  have hn : n >>> (4 * 3) % 16 * 0x1000 + n >>> (4 * 2) % 16 * 0x100 + n >>> (4 * 1) % 16 * 0x10 +
      n >>> (4 * 0) % 16 = n := by
    simp only [Nat.shiftRight_eq_div_pow]
    omega
  show hexEscape? (_ :: _ :: _ :: _ :: c :: rest) = _
  simp only [hexEscape?, hd, Option.bind_eq_bind, Option.bind_some, hn]
  rfl

theorem stringBody_escape {opening done : Text} {fuel : Nat} {e s : CodePoint} (he : e ≠ 'u')
    (hs : simpleEscape? e = some s) (rest : Text) :
    stringBody opening done none (fuel + 1) (CodePoint.backslash :: e :: rest) =
      stringBody opening (s :: done) none fuel rest := by
  have hb : CodePoint.backslash ≠ .quotationMark := by decide
  simp [stringBody, hb, he, hs]

theorem stringBody_plain {opening done : Text} {fuel : Nat} {c : CodePoint}
    (hq : c ≠ .quotationMark) (hb : c ≠ .backslash) (hc : ¬ c.val < 0x20) (rest : Text) :
    stringBody opening done none (fuel + 1)
    (c :: rest) = stringBody opening (c :: done) none fuel rest := by
  simp [stringBody, hq, hb, hc]

theorem stringBody_unitEscape {opening done : Text} {fuel : Nat} {c : CodePoint} (hc : c.val < 0x20)
    (d : CodePoint) (rest : Text) :
    stringBody opening done none (fuel + 1) (unitEscape c.val ++ d :: rest) =
      stringBody opening (c :: done) none fuel (d :: rest) := by
  have hb : CodePoint.backslash ≠ .quotationMark := by decide
  have hu : (Fin.ofNat 0x110000 c.val) = c := Fin.ofNat_val_eq_self c
  have hl : c.isLowSurrogate = false := by simp [CodePoint.isLowSurrogate]; omega
  have hh : c.isHighSurrogate = false := by simp [CodePoint.isHighSurrogate]; omega
  have hw : unitEscape c.val = CodePoint.backslash :: ('u' : CodePoint) :: Text.hex 4 c.val := rfl
  rw [hw, List.cons_append, List.cons_append, stringBody]
  simp only [hb, if_false, if_true, hexEscape?_hex (show c.val < 0x10000 by omega), hu,
    pushUnit, hl, hh]

/-- Each code point of a string is read back from its escape. -/
theorem stringBody_escaped {opening done : Text} {fuel : Nat} (c d : CodePoint) (rest : Text) :
    stringBody opening done none (fuel + 1) (escaped .unicode c ++ d :: rest) =
      stringBody opening (c :: done) none fuel (d :: rest) := by
  unfold escaped
  split
  next h =>
    rcases h with rfl | rfl
    · exact stringBody_escape (by decide) rfl _
    · exact stringBody_escape (by decide) rfl _
  next hq =>
  obtain ⟨hq, hb⟩ := not_or.mp hq
  split
  next h => subst h; exact stringBody_escape (by decide) rfl _
  split
  next h => subst h; exact stringBody_escape (by decide) rfl _
  split
  next h => subst h; exact stringBody_escape (by decide) rfl _
  split
  next h =>
    obtain rfl : c = 0x08 := Fin.ext h
    exact stringBody_escape (by decide) rfl _
  split
  next h =>
    obtain rfl : c = 0x0C := Fin.ext h
    exact stringBody_escape (by decide) rfl _
  split
  next h => exact stringBody_unitEscape h d rest
  next h => simpa using stringBody_plain hq hb h (d :: rest)

theorem stringBody_written {opening done : Text} {fuel : Nat} {s : Text} (h : s.length < fuel)
    (rest : Text) :
    stringBody opening done none fuel
      (s.flatMap (escaped .unicode) ++ CodePoint.quotationMark :: rest) =
      .ok (done.reverse ++ s, rest) := by
  induction s generalizing fuel done with
  | nil =>
    obtain ⟨fuel, rfl⟩ : ∃ less, fuel = less + 1 := ⟨fuel - 1, by omega⟩
    simp [stringBody]
  | cons c s ih =>
    simp only [List.length_cons] at h
    obtain ⟨fuel, rfl⟩ : ∃ less, fuel = less + 1 := ⟨fuel - 1, by omega⟩
    obtain ⟨d, after, ha⟩ : ∃ d after,
        s.flatMap (escaped .unicode) ++ CodePoint.quotationMark :: rest = d :: after := by
      cases s.flatMap (escaped .unicode) with
      | nil => exact ⟨_, _, rfl⟩
      | cons d after => exact ⟨_, _, rfl⟩
    rw [List.flatMap_cons, List.append_assoc, ha, stringBody_escaped, ← ha, ih (by omega)]
    simp

theorem readString_writeString {fuel : Nat} {s : Text} (h : s.length < fuel) (rest : Text) :
    readString fuel (writeString .unicode s ++ rest) = .ok (s, rest) := by
  have hw : (writeString .unicode s ++ rest).drop 1 =
      s.flatMap (escaped .unicode) ++ CodePoint.quotationMark :: rest := by
    simp [writeString]
  rw [readString, hw, stringBody_written h]
  rfl

theorem writeString_append_inj {s s' t t' : Text}
    (h : writeString .unicode s ++ t = writeString .unicode s' ++ t') : s = s' ∧ t = t' := by
  have hl : s.length < s.length + s'.length + 1 := by omega
  have hl' : s'.length < s.length + s'.length + 1 := by omega
  have hs := readString_writeString hl t
  rw [h, readString_writeString hl' t'] at hs
  cases hs
  exact ⟨rfl, rfl⟩

end CatalogTypes.Json
