import CatalogTypes.Proofs.Schema.Reading
import CatalogTypes.Proofs.TypeBox.Balance

/-! # Keys read back

An object is read as the language of its text has it: between braces come fields, each a key,
a colon and an expression, and gaps count for nothing. A key is an identifier or a string in
double quotes. Every key is read back as the name that it was written for, but for a name
that is an identifier with a line feed behind it: it is written without quotes, and then the
line feed is only a gap.
-/
namespace CatalogTypes.TypeBox
open Text TypeBox.Expr

def skipCode (s : Scan) : Text → Option Text
  | [] => if s = ⟨[], .code⟩ then some [] else none
  | c :: rest =>
    match s.advance c with
    | some next => skipCode next rest
    | none => if s = ⟨[], .code⟩ then some (c :: rest) else none

/-- Reads a key, which is a string if a quotation mark opens it and an identifier otherwise. -/
def readKey : Text → Option (Text × Text)
  | [] => none
  | c :: rest =>
    if c = .quotationMark then (Json.readString (rest.length + 1) (c :: rest)).toOption
    else if isNamePart c && !c.isDigit then
      some ((c :: rest).takeWhile isNamePart, (c :: rest).dropWhile isNamePart)
    else none

def readFields : (fuel : Nat) → Text → Option (List Text × Text)
  | 0, _ => none
  | fuel + 1, t => do
    let (name, rest) ← readKey (t.dropWhile isGap)
    let rest ← after? ":" (rest.dropWhile isGap)
    match ← skipCode ⟨[], .code⟩ rest with
    | [] => none
    | c :: rest =>
      if c = ',' then (readFields fuel rest).map fun (names, rest) => (name :: names, rest)
      else if c = '\x7d' then some ([name], rest)
      else none

def readObject (t : Text) : Option (List Text × Text) := do
  let rest ← after? "Type.Object(\x7b" t
  let first := rest.dropWhile isGap
  let (names, rest) ←
    if first.head? = some ('\x7d' : CodePoint) then some ([], first.drop 1)
    else readFields rest.length rest
  return (names, ← after? ")" rest)

section Skipping
variable {s next : Scan} {t : Text}

theorem skipCode_append (h : t.foldlM Scan.advance s = some next) (rest : Text) :
    skipCode s (t ++ rest) = skipCode next rest := by
  induction t generalizing s with
  | nil =>
    cases h
    rfl
  | cons c t ih =>
    rw [List.foldlM_cons] at h
    obtain ⟨middle, hm, ht⟩ := Option.bind_eq_some_iff.mp h
    rw [List.cons_append, skipCode, hm]
    exact ih ht

/-- Balanced code is skipped up to the separator behind it. -/
theorem skipCode_of_balanced (h : Balanced .code [] t) {c : CodePoint}
    (hc : Scan.advanceCode [] c = none) (rest : Text) :
    skipCode ⟨[], .code⟩ (t ++ c :: rest) = some (c :: rest) := by
  rw [skipCode_append h, skipCode]
  simp [Scan.advance, hc]

end Skipping

def readBack (name : Text) : Text := if isPlainKey name then name.takeWhile isNamePart else name

/-- A code point of a name that is no digit, and then any number of code points of names. -/
def IsIdentifier (name : Text) : Prop :=
  ∃ c rest, name = c :: rest ∧ isNamePart c ∧ c.isDigit = false ∧ ∀ d ∈ rest, isNamePart d

/-- An identifier with a line feed behind it. -/
def Misread (name : Text) : Prop :=
  ∃ identifier, IsIdentifier identifier ∧ name = identifier ++ text "\n"

section Names
variable {name identifier : Text} {c : CodePoint}

theorem isGap_eq_false_of_isNamePart (h : isNamePart c) : isGap c = false := by
  simp only [isNamePart, CodePoint.isAlphanumeric, CodePoint.isLetter, CodePoint.isDigit,
    Bool.or_eq_true, Bool.and_eq_true, decide_eq_true_eq] at h
  rcases h with (h | rfl) | rfl
  · simp only [isGap, Bool.or_eq_false_iff, Bool.and_eq_false_iff, decide_eq_false_iff_not,
      List.contains_eq_mem, List.mem_cons, List.not_mem_nil, or_false]
    omega
  · rfl
  · rfl

theorem ends_lineFeed (t : Text) : Ends isNamePart (text "\n" ++ t) := ends_cons (by decide) t

theorem IsIdentifier.isNamePart_of_mem (h : IsIdentifier identifier) :
    ∀ c ∈ identifier, isNamePart c := by
  obtain ⟨c, rest, rfl, hc, _, hr⟩ := h
  exact List.forall_mem_cons.mpr ⟨hc, hr⟩

theorem isPlainKey_append (h : IsIdentifier identifier) {tail : Text} (ht : Ends isNamePart tail) :
    isPlainKey (identifier ++ tail) = (tail.isEmpty || decide (tail = text "\n")) := by
  obtain ⟨c, rest, rfl, hc, hd, hr⟩ := h
  rw [List.cons_append, isPlainKey]
  simp [hc, hd, dropWhile_append_of_ends hr ht]

theorem isPlainKey_identifier (h : IsIdentifier identifier) : isPlainKey identifier := by
  have hp := isPlainKey_append h (nofun : Ends isNamePart [])
  rwa [List.append_nil] at hp

theorem isPlainKey_misread (h : IsIdentifier identifier) : isPlainKey (identifier ++ text "\n") :=
  isPlainKey_append h (ends_lineFeed [])

theorem isPlainKey_iff : isPlainKey name ↔ IsIdentifier name ∨ Misread name := by
  constructor
  · intro h
    cases name with
    | nil => cases h
    | cons c rest =>
      simp only [isPlainKey, Bool.and_eq_true, Bool.not_eq_true', Bool.or_eq_true, List.isEmpty_iff,
        decide_eq_true_eq] at h
      obtain ⟨⟨hc, hd⟩, ht⟩ := h
      have hfront : IsIdentifier (c :: rest.takeWhile isNamePart) :=
        ⟨c, _, rfl, hc, hd, List.all_eq_true.mp List.all_takeWhile⟩
      have hcut := List.takeWhile_append_dropWhile (p := isNamePart) (l := rest)
      rcases ht with ht | ht
      · rw [ht, List.append_nil] at hcut
        exact .inl (hcut ▸ hfront)
      · rw [ht] at hcut
        exact .inr ⟨_, hfront, by rw [List.cons_append, hcut]⟩
  · rintro (h | ⟨identifier, h, rfl⟩)
    · exact isPlainKey_identifier h
    · exact isPlainKey_misread h

theorem readBack_identifier (h : IsIdentifier identifier) : readBack identifier = identifier := by
  rw [readBack, if_pos (isPlainKey_identifier h)]
  have hs := takeWhile_append_of_ends (t := []) h.isNamePart_of_mem nofun
  rwa [List.append_nil] at hs

theorem readBack_misread (h : IsIdentifier identifier) :
    readBack (identifier ++ text "\n") = identifier := by
  rw [readBack, if_pos (isPlainKey_misread h)]
  exact takeWhile_append_of_ends h.isNamePart_of_mem (ends_lineFeed [])

theorem readBack_eq_self_iff : readBack name = name ↔ ¬ Misread name := by
  constructor
  · rintro h ⟨identifier, hi, rfl⟩
    rw [readBack_misread hi] at h
    simpa [text] using congrArg List.length h
  · intro h
    by_cases hp : isPlainKey name
    · exact readBack_identifier ((isPlainKey_iff.mp hp).resolve_right h)
    · rw [readBack, if_neg hp]

theorem length_le_flatMap_escaped (name : Text) :
    name.length ≤ (name.flatMap (Json.escaped .unicode)).length := by
  induction name with
  | nil => exact Nat.le_refl 0
  | cons c name ih =>
    have hc : Json.escaped .unicode c ≠ [] := by
      simp only [Json.escaped, reduceCtorEq, false_and, if_false]
      repeat' split
      all_goals exact List.cons_ne_nil _ _
    have hl := List.length_pos_iff.mpr hc
    rw [List.flatMap_cons, List.length_append, List.length_cons]
    omega

theorem map_readBack_eq_self_iff {names : List Text} :
    names.map readBack = names ↔ ∀ name ∈ names, ¬ Misread name := by
  have hid : names.map readBack = names ↔ ∀ name ∈ names, readBack name = id name := by
    rw [← List.map_inj_left, List.map_id]
  rw [hid]
  exact forall₂_congr fun _ _ => readBack_eq_self_iff

/-- A name is its own key just when it is written without quotes. -/
theorem key_eq_self_iff : key name = name ↔ IsIdentifier name ∨ Misread name := by
  rw [← isPlainKey_iff, key]
  split
  next h => simp [h]
  next h =>
    have hl := length_le_flatMap_escaped name
    refine iff_of_false (fun he => ?_) h
    have hlength := congrArg List.length he
    simp only [Json.writeString, List.cons_append, List.length_cons, List.length_append,
      List.length_nil] at hlength
    omega

end Names

section Reading
variable {name rest : Text}

theorem readKey_identifier (h : IsIdentifier name) (hr : Ends isNamePart rest) :
    readKey (name ++ rest) = some (name, rest) := by
  have hp := h.isNamePart_of_mem
  have htake := takeWhile_append_of_ends hp hr
  have hdrop := dropWhile_append_of_ends hp hr
  obtain ⟨c, cs, rfl, hc, hd, _⟩ := h
  have hq : c ≠ .quotationMark := by
    rintro rfl
    exact absurd hc (by decide)
  rw [List.cons_append] at htake hdrop ⊢
  rw [readKey, if_neg hq, hc, hd, if_pos (by decide), htake, hdrop]

theorem readKey_writeString (name rest : Text) :
    readKey (Json.writeString .unicode name ++ rest) = some (name, rest) := by
  obtain ⟨c, t, ht⟩ : ∃ c t, Json.writeString .unicode name ++ rest = c :: t := ⟨_, _, rfl⟩
  have hc : c = .quotationMark := (List.cons.inj ht).1.symm
  have hfuel : name.length < t.length + 1 := by
    have hl := congrArg List.length ht
    have hn := length_le_flatMap_escaped name
    simp only [Json.writeString, List.cons_append, List.length_cons, List.length_append,
      List.length_nil] at hl
    omega
  rw [ht, readKey, if_pos hc, ← ht, Json.readString_writeString hfuel]
  rfl

/-- A written key is read up to its colon, with at most a gap before it. -/
theorem readKey_key (name t : Text) :
    ∃ rest, readKey (key name ++ (":" ++ t)) = some (readBack name, rest) ∧
    after? ":" (rest.dropWhile isGap) = some t := by
  have hcolon : Ends isGap (text ":" ++ t) := ends_cons (by decide) t
  have hname : Ends isNamePart (text ":" ++ t) := ends_cons (by decide) t
  have hafter : after? ":" ((text ":" ++ t).dropWhile isGap) = some t := by
    rw [hcolon.dropWhile_eq_self, after?_append]
  by_cases hp : isPlainKey name
  · rw [key, if_pos hp]
    rcases isPlainKey_iff.mp hp with h | ⟨identifier, h, rfl⟩
    · rw [readKey_identifier h hname, readBack_identifier h]
      exact ⟨_, rfl, hafter⟩
    · rw [List.append_assoc, readKey_identifier h (ends_lineFeed _), readBack_misread h]
      exact ⟨_, rfl, hafter⟩
  · rw [key, if_neg hp, readKey_writeString, readBack, if_neg hp]
    exact ⟨_, rfl, hafter⟩

/-- A key begins with a code point of a name or with a quotation mark. -/
theorem ends_key {p : CodePoint → Bool} (hp : ∀ c, isNamePart c → p c = false)
    (hq : p .quotationMark = false) (name t : Text) : Ends p (key name ++ t) := by
  by_cases h : isPlainKey name
  · obtain ⟨body, tail, hname, hb, hne, _⟩ := isPlainKey_cases h
    rw [key, if_pos h, hname]
    cases body with
    | nil => exact absurd rfl hne
    | cons c body => exact ends_cons (hp c (hb c List.mem_cons_self)) _
  · rw [key, if_neg h]
    exact ends_cons hq _

theorem ends_isGap_key (name t : Text) : Ends isGap (key name ++ t) :=
  ends_key (fun _ => isGap_eq_false_of_isNamePart) (by decide) name t

/-- One field is read up to the separator behind it, with at most a gap before that. -/
theorem readFields_field {lead indent gap : Text} (hl : lead.all isGap) (hi : indent.all isGap)
    (hg : gap.all isGap) (fuel : Nat) (f : Text × Bool × Expr) {c : CodePoint}
    (hc : Scan.advanceCode [] c = none) (rest : Text) :
    readFields (fuel + 1) (lead ++ (field indent f ++ (gap ++ c :: rest))) =
      if c = ',' then (readFields fuel rest).map fun (names, rest) => (readBack f.1 :: names, rest)
      else if c = '\x7d' then some ([readBack f.1], rest)
      else none := by
  have hvalue : Balanced .code [] (text " " ++ optional f.2.1 (f.2.2.render indent) ++ gap) :=
    Code.balanced (((Code.word (by decide) : Code false (text " ")).append
      (code_optional (code_render f.2.2 indent hi))).append (code_gap hg)) [] nofun
  have hskip := skipCode_of_balanced hvalue hc rest
  have hlead : ∀ d ∈ lead ++ indent, isGap d :=
    List.forall_mem_append.mpr ⟨List.all_eq_true.mp hl, List.all_eq_true.mp hi⟩
  have hcolon : text ": " = text ":" ++ text " " := rfl
  have htext : lead ++ (field indent f ++ (gap ++ c :: rest)) = (lead ++ indent) ++
      (key f.1 ++ (text ":" ++
      (text " " ++ optional f.2.1 (f.2.2.render indent) ++ gap ++ c :: rest))) := by
    simp only [field, hcolon, List.append_assoc]
  obtain ⟨after, hkey, hafter⟩ :=
    readKey_key f.1 (text " " ++ optional f.2.1 (f.2.2.render indent) ++ gap ++ c :: rest)
  rw [htext, readFields, dropWhile_append_of_ends hlead (ends_isGap_key f.1 _), hkey]
  simp only [Option.bind_eq_bind, Option.bind_some, hafter, hskip]

theorem readFields_fields {lead indent gap : Text} (hl : lead.all isGap) (hi : indent.all isGap)
    (hg : gap.all isGap) {fuel : Nat} {f : Text × Bool × Expr} {fields : List (Text × Bool × Expr)}
    (h : fields.length < fuel) (rest : Text) :
    readFields fuel (lead ++ (List.intercalate (text ",\n") ((f :: fields).map (field indent)) ++
      (gap ++ ('\x7d' : CodePoint) :: rest))) = some ((f :: fields).map fun f => readBack f.1,
        rest) := by
  obtain ⟨less, rfl⟩ : ∃ less, fuel = less + 1 := ⟨fuel - 1, by omega⟩
  induction fields generalizing lead f less with
  | nil =>
    rw [List.map_singleton, List.intercalate_singleton, readFields_field hl hi hg less f
      (by decide)]
    rfl
  | cons next fields ih =>
    obtain ⟨less', rfl⟩ : ∃ less', less = less' + 1 :=
      ⟨less - 1, by simp only [List.length_cons] at h; omega⟩
    have hbreak : (text "\n").all isGap := by decide
    have hcut (t : Text) : text ",\n" ++ t = [] ++ (',' : CodePoint) :: (text "\n" ++ t) := rfl
    have hrest := ih hbreak (f := next) less' (by simpa using h)
    rw [List.map_cons] at hrest
    rw [List.map_cons, List.map_cons, List.intercalate_cons_cons, List.append_assoc,
      List.append_assoc, hcut, readFields_field hl hi (by rfl) _ f (by decide), if_pos rfl, hrest]
    rfl

theorem length_le_intercalate {separator : Text} {pieces : List Text}
    (h : ∀ piece ∈ pieces, piece ≠ []) :
    pieces.length ≤ (List.intercalate separator pieces).length := by
  induction pieces with
  | nil => exact Nat.zero_le _
  | cons piece pieces ih =>
    obtain ⟨hp, hps⟩ := List.forall_mem_cons.mp h
    have hl := List.length_pos_iff.mpr hp
    have hr := ih hps
    cases pieces with
    | nil =>
      rw [List.intercalate_singleton]
      exact hl
    | cons next rest =>
      rw [List.intercalate_cons_cons, List.length_append, List.length_append, List.length_cons]
      omega

theorem field_ne_nil (indent : Text) (f : Text × Bool × Expr) : field indent f ≠ [] := by
  simp [field, text]

theorem head?_dropWhile_fields {lead indent : Text} (hl : lead.all isGap) (hi : indent.all isGap)
    (f : Text × Bool × Expr) (fields : List (Text × Bool × Expr)) (t : Text) :
    ((lead ++ (List.intercalate (text ",\n") ((f :: fields).map (field indent)) ++ t)).dropWhile
      isGap).head? ≠
      some ('\x7d' : CodePoint) := by
  have hlead : ∀ d ∈ lead ++ indent, isGap d :=
    List.forall_mem_append.mpr ⟨List.all_eq_true.mp hl, List.all_eq_true.mp hi⟩
  have hbrace : ∀ c, isNamePart c → decide (c = ('\x7d' : CodePoint)) = false := by
    rintro c hc
    rw [decide_eq_false_iff_not]
    rintro rfl
    exact absurd hc (by decide)
  rw [List.map_cons, intercalate_cons, field]
  simp only [List.append_assoc]
  rw [← List.append_assoc lead, dropWhile_append_of_ends hlead (ends_isGap_key f.1 _)]
  intro h
  exact absurd (ends_key hbrace (by decide) f.1 _ _ h) (by decide)

/-- The keys of an object are those that its names are read back as. -/
theorem readObject_render {indent : Text} (hi : indent.all isGap)
    (fields : List (Text × Bool × Expr)) (rest : Text) :
    readObject ((Expr.object fields).render indent ++ rest) = some (fields.map fun f =>
      readBack f.1, rest) := by
  cases fields with
  | nil => rfl
  | cons f fields =>
    have hbreak : (text "\n").all isGap := by decide
    have hindented : (indent ++ indentation).all isGap := by
      rw [List.all_append, hi]
      rfl
    have hgap : (text "\n" ++ indent).all isGap := by
      rw [List.all_append, hi]
      rfl
    have hopen : text "Type.Object(\x7b\n" = text "Type.Object(\x7b" ++ text "\n" := rfl
    have hclose : text "\x7d)" ++ rest = ('\x7d' : CodePoint) :: (text ")" ++ rest) := rfl
    have htext : (Expr.object (f :: fields)).render indent ++ rest = text "Type.Object(\x7b" ++
        (text "\n" ++
        (List.intercalate (text ",\n") ((f :: fields).map (field (indent ++ indentation))) ++
          ((text "\n" ++ indent) ++ ('\x7d' : CodePoint) :: (text ")" ++ rest)))) := by
      rw [render, renderFields_eq, hopen, ← hclose]
      simp only [List.append_assoc]
    have hne : ∀ piece ∈ (f :: fields).map (field (indent ++ indentation)), piece ≠ [] :=
      List.forall_mem_map.mpr fun f _ => field_ne_nil (indent ++ indentation) f
    have hfields := @length_le_intercalate (text ",\n") _ hne
    rw [htext, readObject, after?_append]
    simp only [Option.bind_eq_bind, Option.bind_some]
    rw [if_neg (head?_dropWhile_fields hbreak hindented f fields _),
      readFields_fields hbreak hindented hgap]
    · simp only [Option.bind_some, after?_append]
      rfl
    · simp only [List.length_map, List.length_cons] at hfields
      simp only [List.length_append, List.length_cons]
      omega

def propertyNames : Json → List Text
  | .object members => (Source.tree.properties members).map Prod.fst
  | _ => []

theorem names_of_readProperties {child : Json → Except SchemaError (Schema Json)}
    {properties : List (Text × Json)} {ps : List (Text × Schema Json)}
    (h : Schema.readProperties child properties = .ok ps) :
    ps.map Prod.fst = properties.map Prod.fst := by
  induction properties generalizing ps with
  | nil =>
    cases h
    rfl
  | cons p rest ih =>
    obtain ⟨s, others, _, ho, rfl⟩ := Schema.readProperties_cons_eq_ok.mp h
    rw [List.map_cons, List.map_cons, ih ho]

theorem names_ofProperties (required : List Text) (properties : List (Text × Schema Json)) :
    (ofProperties required properties).map (fun f => readBack f.1) =
      (properties.map Prod.fst).map readBack := by
  induction properties with
  | nil => rfl
  | cons p rest ih => rw [ofProperties, List.map_cons, ih, List.map_cons, List.map_cons]

theorem names_of_readAt {limit : Int} {room depth : Nat} {enclosing : List Nat} {raw : Json}
    {caption : Caption} {properties : List (Text × Schema Json)} {required : List Text}
    (h : Schema.readAt .tree limit room depth enclosing raw =
      .ok (.object caption properties required)) :
    properties.map Prod.fst = propertyNames raw := by
  cases raw with
  | object members =>
    have hlevel : Source.tree.level (.object members) = .object members := rfl
    obtain ⟨_, _, _, hm⟩ := Schema.readAt_ok_members hlevel h
    cases Schema.formed_of_readMembers hm with
    | object _ hps => exact names_of_readProperties hps
  | null | bool _ | int _ | float _ | string _ | array _ =>
    rw [Schema.readAt_of_not_isObject rfl] at h
    cases h

end Reading

/-- The keys of an object that was read are, in their order, the names of its properties, unless one
of these is an identifier with a line feed behind it. Such a name is written without quotes and read
back as the identifier, and it is the only kind of name that two keys can be lost by. -/
theorem keys_exact {limit : Int} {room depth : Nat} {enclosing : List Nat} {raw : Json}
    {caption : Caption} {properties : List (Text × Schema Json)} {required : List Text}
    (h : Schema.readAt .tree limit room depth enclosing raw =
      .ok (.object caption properties required))
    {indent : Text} (hi : indent.all isGap) (rest : Text) :
    readObject (ofSchema indent (.object caption properties required) ++ rest) =
        some ((propertyNames raw).map readBack, rest) ∧
      ((propertyNames raw).map readBack = propertyNames raw ↔
        ∀ name ∈ propertyNames raw, ¬ Misread name) ∧
      (∀ identifier, IsIdentifier identifier → readBack (identifier ++ text "\n") = identifier) ∧
      (∀ name, key name = name ↔ IsIdentifier name ∨ Misread name) ∧
      ∀ name other, name ≠ other → readBack name = readBack other → Misread name ∨
      Misread other := by
  refine ⟨?_, ?_, fun _ => readBack_misread, ?_, ?_⟩
  · rw [← names_of_readAt h, ← names_ofProperties required]
    exact readObject_render hi _ rest
  · exact map_readBack_eq_self_iff
  · exact fun _ => key_eq_self_iff
  · intro name other hne hr
    by_cases hn : Misread name
    · exact .inl hn
    · refine .inr ?_
      by_cases ho : Misread other
      · exact ho
      · exact absurd ((readBack_eq_self_iff.mpr hn).symm.trans
          (hr.trans (readBack_eq_self_iff.mpr ho))) hne

def named (names : List Text) : Json :=
  .object [("type", .string "object"), ("properties", .object (names.map (·, .object [])))]

theorem keys_exact_quoted : ∃ s, Schema.readAt .tree 64 65 0 [] (named [text "a-b", text "a"]) =
    .ok s ∧
    readObject (ofSchema [] s) = some ([text "a-b", text "a"], []) := by
  have h : Schema.readAt .tree 64 65 0 [] (named [text "a-b", text "a"]) =
      .ok (.object .empty [(text "a-b", .anything), (text "a", .anything)] []) := rfl
  have hgap : (text "").all isGap := rfl
  have hkeys := (keys_exact h hgap []).1
  rw [List.append_nil] at hkeys
  exact ⟨_, h, hkeys⟩

theorem keys_lost : propertyNames (named [text "a\n", text "a"]) = [text "a\n", text "a"] ∧
    ∃ s, Schema.ofJson (named [text "a\n", text "a"]) = .ok s ∧
      readObject (ofSchema [] s) = some ([text "a", text "a"], []) := by
  have hgap : (text "").all isGap := rfl
  have hkeys :=
    readObject_render hgap (ofProperties [] [(text "a\n", .anything), (text "a", .anything)]) []
  rw [List.append_nil] at hkeys
  exact ⟨rfl, .object .empty [(text "a\n", .anything), (text "a", .anything)] [], rfl, hkeys⟩

end CatalogTypes.TypeBox
