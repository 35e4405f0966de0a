import CatalogTypes.Proofs.Settings.Simple

/-! # Lines read back

A simple file is read line by line. A line of white space is skipped, and any other is one
statement, from behind the white space in front of it to its end. Every assignment is read as the
binding that it is meant to be.
-/
namespace CatalogTypes.EnvFile
open Text Unicode

section Name
variable {name blanks t : Text}

theorem isNameEnd_eq_false_of_isKeyPart {c : CodePoint} (h : isKeyPart c) :
    isNameEnd c = false := by
  simp only [isKeyPart, Bool.and_eq_true, Bool.not_eq_true'] at h
  exact h.1.1.1

theorem isNameEnd_of_isInnerBlank {c : CodePoint} (h : isInnerBlank c) : isNameEnd c := by
  simp [isNameEnd, isBlank_of_isInnerBlank h]

theorem skipExport_export (hb : Gap blanks) (hne : blanks ≠ []) (ht : Ends isInnerBlank t) :
    skipExport ("export" ++ (blanks ++ t)) = t := by
  obtain ⟨c, blanks, rfl⟩ := List.exists_cons_of_ne_nil hne
  obtain ⟨hc, hblanks⟩ := List.forall_mem_cons.mp hb
  rw [skipExport, after?_append]
  simp only [List.cons_append, hc, if_true]
  exact skipBlanks_append hblanks ht

/-- A name is not taken for the word `export`, unless it is that word and white space follows it. -/
theorem skipExport_name (hn : IsKey name) (ht : Ends (!isNameEnd ·) t)
    (he : name = "export" → Ends isInnerBlank t) : skipExport (name ++ t) = name ++ t := by
  unfold skipExport
  split
  next c rest ha =>
    refine if_neg fun hc => ?_
    have hkey : ∀ d ∈ name, !isNameEnd d :=
      fun d hd => by simp [isNameEnd_eq_false_of_isKeyPart (hn d hd)]
    have hrest : Ends (!isNameEnd ·) (c :: rest) :=
      ends_cons (by simp [isNameEnd_of_isInnerBlank hc]) _
    obtain ⟨hname, htail⟩ :=
      run_append_inj hkey (List.all_eq_true.mp (by decide)) ht hrest (eq_append_of_after? ha)
    exact absurd hc (by simp [he hname c (by rw [htail]; rfl)])
  · rfl

theorem name?_key (hne : name ≠ []) (hn : IsKey name) (ht : Ends (!isNameEnd ·) t) :
    name? (name ++ t) = some (some name, t) := by
  have hkey : ∀ d ∈ name, !isNameEnd d :=
    fun d hd => by simp [isNameEnd_eq_false_of_isKeyPart (hn d hd)]
  have htake := takeWhile_append_of_ends hkey ht
  have hdrop := dropWhile_append_of_ends hkey ht
  obtain ⟨c, rest, rfl⟩ := List.exists_cons_of_ne_nil hne
  have hc := hn c List.mem_cons_self
  have hend := isNameEnd_eq_false_of_isKeyPart hc
  have hsign : c ≠ '#' := by
    rintro rfl
    exact absurd hend (by decide)
  have hquote : c ≠ .apostrophe := by
    simp only [isKeyPart, Bool.and_eq_true, decide_eq_true_eq] at hc
    exact hc.1.1.2
  rw [List.cons_append] at htake hdrop ⊢
  rw [name?, if_neg hsign, if_neg hquote, if_neg (by simp [hend]), htake, hdrop]

end Name

section Statement
variable {tail : Text}

theorem Assignment.Simple.ends_before {a : Assignment} {gap : Text} {remark : Option Text}
    (h : a.Simple gap remark) (t : Text) : Ends (!isNameEnd ·) (a.before ++ ("=" ++ t)) := by
  cases hb : a.before with
  | nil => exact ends_cons (by decide) _
  | cons c before =>
    have hc := h.before c (hb ▸ List.mem_cons_self)
    exact ends_cons (by simp [isNameEnd_of_isInnerBlank hc]) _

/-- Whatever stands before the name of an assignment, the name is what is looked at next. -/
theorem Assignment.Simple.skipExport_text {a : Assignment} {gap : Text} {remark : Option Text}
    (h : a.Simple gap remark) (t : Text) :
    skipExport (a.front ++ (a.name ++ (a.before ++ ("=" ++ t)))) = a.name ++
      (a.before ++ ("=" ++ t)) := by
  have hname : Ends isInnerBlank (a.name ++ (a.before ++ ("=" ++ t))) := by
    obtain ⟨c, rest, hc⟩ := List.exists_cons_of_ne_nil h.name_ne_nil
    have hend := isNameEnd_eq_false_of_isKeyPart (h.name c (hc ▸ List.mem_cons_self))
    rw [hc, List.cons_append]
    refine ends_cons (Bool.eq_false_iff.mpr fun hi => ?_) _
    exact absurd (isNameEnd_of_isInnerBlank hi) (by simp [hend])
  unfold Assignment.front
  split
  next he =>
    rw [List.nil_append]
    refine skipExport_name h.name (h.ends_before t) fun hn => ?_
    rw [h.unexported he hn]
    exact ends_cons (by decide) _
  next blanks he =>
    obtain ⟨hne, hgap⟩ := h.exported blanks he
    rw [List.append_assoc]
    exact skipExport_export hgap hne hname

theorem statement_assignment {l : Line} (hl : l.Simple) {a : Assignment}
    (ha : l.assignment = some a) (ht : LineTail tail) (n : Nat) :
    statement n (a.text ++ (l.gap ++ (remarkText l.remark ++ tail))) =
      (.binding ⟨a.name, some a.value⟩, tail.drop 1) := by
  have hs := hl.assignment a ha
  obtain ⟨rest, hvalue, hafter⟩ := value?_write hs.value hs.behind hl.gap hl.remark ht
  have htext : a.text ++ (l.gap ++ (remarkText l.remark ++ tail)) = a.front ++
      (a.name ++ (a.before ++ ("=" ++
      (a.behind ++ (a.style.write a.value ++ (l.gap ++ (remarkText l.remark ++ tail))))))) := by
    simp only [Assignment.text, List.append_assoc]
  have hequals (t : Text) : skipBlanks (a.before ++ ("=" ++ t)) = ('=' : CodePoint) :: t :=
    skipBlanks_append hs.before (ends_cons (by decide) t)
  rw [htext, statement, hs.skipExport_text]
  simp only [name?_key hs.name_ne_nil hs.name (hs.ends_before _), hequals, List.head?_cons, if_true,
    List.drop_one, List.tail_cons, hvalue, Option.map_some, hafter]

theorem statement_remark {words : Text} (hw : OneLine words) (ht : LineTail tail) (n : Nat) :
    statement n (('#' : CodePoint) :: (words ++ tail)) = (.comment, tail.drop 1) := by
  have hafter : afterBinding? (('#' : CodePoint) :: (words ++ tail)) = some (tail.drop 1) := by
    have hremark : ∀ t ∈ some words, OneLine t := by
      rintro t ⟨⟩
      exact hw
    exact @afterBinding?_line [] tail (some words) (List.forall_mem_nil _) hremark ht
  have hexport : skipExport (('#' : CodePoint) :: (words ++ tail)) = ('#' : CodePoint) ::
      (words ++ tail) := rfl
  have hname : name? (('#' : CodePoint) :: (words ++ tail)) =
      some (none, ('#' : CodePoint) :: (words ++ tail)) := rfl
  have hskip : skipBlanks (('#' : CodePoint) :: (words ++ tail)) = ('#' : CodePoint) ::
      (words ++ tail) := rfl
  have hequals : ¬ (some ('#' : CodePoint) = some ('=' : CodePoint)) := by decide
  rw [statement, hexport]
  simp only [hname, hskip, List.head?_cons, if_neg hequals, hafter]

end Statement

section File
variable {lines : List Line} {lead content next : Text} {found : Statement}

theorem statementsFrom_blank (hb : ∀ c ∈ lead, isBlank c) (fuel n : Nat) :
    statementsFrom fuel n lead = [] := by
  cases fuel with
  | zero => rfl
  | succ fuel => rw [statementsFrom, List.dropWhile_eq_nil_iff.mpr hb]

/-- A statement is read behind white space, and reading goes on with what is next. -/
theorem statementsFrom_statement (hb : ∀ c ∈ lead, isBlank c) (hc : Ends isBlank content)
    (hne : content ≠ []) (hs : ∀ n, statement n content = (found, next)) (fuel n : Nat) :
    ∃ n', statementsFrom (fuel + 1) n (lead ++ content) = found :: statementsFrom fuel n' next := by
  have hdrop := dropWhile_append_of_ends hb hc
  obtain ⟨c, rest, rfl⟩ := List.exists_cons_of_ne_nil hne
  rw [statementsFrom, hdrop]
  simp only [hs]
  exact ⟨_, rfl⟩

theorem Assignment.Simple.ends_text {a : Assignment} {gap : Text} {remark : Option Text}
    (h : a.Simple gap remark) {p : CodePoint → Bool} (hp : ∀ c, isKeyPart c → p c = false)
    (t : Text) : Ends p (a.text ++ t) := by
  obtain ⟨c, name, hc⟩ := List.exists_cons_of_ne_nil h.name_ne_nil
  have hname := hp c (h.name c (hc ▸ List.mem_cons_self))
  unfold Assignment.text Assignment.front
  cases a.exported with
  | none =>
    rw [List.nil_append, hc]
    exact ends_cons hname _
  | some blanks => exact ends_cons (hp 'e' (by decide)) _

theorem isBlank_eq_false_of_isKeyPart {c : CodePoint} (h : isKeyPart c) : isBlank c = false := by
  have hend := isNameEnd_eq_false_of_isKeyPart h
  rw [isNameEnd, Bool.or_eq_false_iff] at hend
  exact hend.2

theorem lineTail_afterFirst (pieces : List Text) :
    LineTail (afterFirst (CatalogTypes.text "\n") pieces) := by
  cases pieces with
  | nil => exact nofun
  | cons piece pieces =>
    rintro c ⟨⟩
    rfl

theorem drop_afterFirst (pieces : List Text) :
    (afterFirst (CatalogTypes.text "\n") pieces).drop 1 = Text.lines pieces := by
  cases pieces with
  | nil => rfl
  | cons piece pieces => rfl

/-- A line is white space, or one statement behind white space. -/
theorem Line.Simple.cases {l : Line} (hs : l.Simple) : (l.statement? = none ∧ Gap l.text) ∨
    ∃ found front content, l.statement? = some found ∧ l.text = front ++ content ∧ Gap front ∧
    content ≠ [] ∧
      ∀ tail, LineTail tail → Ends isBlank (content ++ tail) ∧ ∀ n, statement n (content ++ tail) =
        (found, tail.drop 1) := by
  unfold Line.statement? Line.text
  cases ha : l.assignment with
  | some a =>
    have hends (t : Text) : Ends isBlank (a.text ++ t) :=
      (hs.assignment a ha).ends_text (fun _ => isBlank_eq_false_of_isKeyPart) t
    have hne : a.text ≠ [] := by
      obtain ⟨c, rest, hc⟩ := List.exists_cons_of_ne_nil (hs.assignment a ha).name_ne_nil
      simp [Assignment.text, hc]
    refine .inr ⟨_, l.indent, a.text ++ (l.gap ++ remarkText l.remark), rfl, rfl, hs.indent,
      List.append_ne_nil_of_left_ne_nil hne _, fun tail ht => ?_⟩
    rw [List.append_assoc, List.append_assoc]
    exact ⟨hends _, statement_assignment hs ha ht⟩
  | none =>
    cases hr : l.remark with
    | none =>
      refine .inl ⟨rfl, ?_⟩
      exact hs.indent.append (hs.gap.append (List.forall_mem_nil _))
    | some words =>
      refine .inr ⟨_, l.indent ++ l.gap, '#' :: words, rfl, ?_, hs.indent.append hs.gap,
        List.cons_ne_nil _ _,
        fun tail ht => ⟨ends_cons (by decide) _, statement_remark (hs.remark words hr) ht⟩⟩
      rw [List.append_assoc]
      rfl

/-- The statements of simple lines are read one after the other, behind any white space. -/
theorem statementsFrom_lines (hl : ∀ l ∈ lines, l.Simple) (hb : ∀ c ∈ lead, isBlank c) {fuel : Nat}
    (hf : (lead ++ Text.lines (lines.map Line.text)).length ≤ fuel) (n : Nat) :
    statementsFrom fuel n (lead ++ Text.lines (lines.map Line.text)) =
      lines.filterMap Line.statement? := by
  induction lines generalizing lead fuel n with
  | nil =>
    have hnone : lead ++ Text.lines (List.map Line.text []) = lead := List.append_nil lead
    rw [hnone]
    exact statementsFrom_blank hb fuel n
  | cons l lines ih =>
    obtain ⟨hs, hls⟩ := List.forall_mem_cons.mp hl
    have hcut : Text.lines ((l :: lines).map Line.text) = l.text ++
        afterFirst (CatalogTypes.text "\n") (lines.map Line.text) :=
      intercalate_cons _ _ _
    have htail := lineTail_afterFirst (lines.map Line.text)
    have hrest := drop_afterFirst (lines.map Line.text)
    rw [hcut] at hf ⊢
    generalize afterFirst (CatalogTypes.text "\n") (lines.map Line.text) = tail at hf htail hrest ⊢
    have hlength := congrArg List.length hrest
    rw [List.length_drop] at hlength
    rcases hs.cases with ⟨hnone, hgap⟩ | ⟨found, front, content, hfound, htext, hfront, hne, hread⟩
    · have hwhite : ∀ c ∈ lead ++ l.text ++ tail.take 1, isBlank c := by
        refine List.forall_mem_append.mpr ⟨List.forall_mem_append.mpr ⟨hb, hgap.blank⟩, ?_⟩
        cases tail with
        | nil => exact List.forall_mem_nil _
        | cons c tail =>
          rw [htail c rfl]
          exact List.forall_mem_singleton.mpr (by decide)
      have hall : lead ++ (l.text ++ tail) = lead ++ l.text ++ tail.take 1 ++
          Text.lines (lines.map Line.text) := by
        rw [← hrest, List.append_assoc, List.append_assoc, List.take_append_drop]
      rw [hall] at hf ⊢
      rw [List.filterMap_cons_none hnone]
      exact ih hls hwhite hf n
    · obtain ⟨hends, hstatement⟩ := hread tail htail
      have hwhite : ∀ c ∈ lead ++ front, isBlank c := List.forall_mem_append.mpr ⟨hb, hfront.blank⟩
      have hpos := List.length_pos_iff.mpr hne
      rw [htext, List.append_assoc, ← List.append_assoc lead] at hf ⊢
      simp only [List.length_append] at hf
      obtain ⟨less, rfl⟩ : ∃ less, fuel = less + 1 := ⟨fuel - 1, by omega⟩
      obtain ⟨n', hn⟩ :=
        statementsFrom_statement hwhite hends (List.append_ne_nil_of_left_ne_nil hne _)
          hstatement less n
      have hlater := @ih [] hls (List.forall_mem_nil _) less (by rw [List.nil_append]; omega) n'
      rw [hn, hrest, List.filterMap_cons_some hfound, ← hlater]
      rfl

theorem head?_lines (hl : ∀ l ∈ lines, l.Simple) :
    (Text.lines (lines.map Line.text)).head? ≠ some 0xFEFF := by
  cases lines with
  | nil => exact nofun
  | cons l lines =>
    have hs := hl l List.mem_cons_self
    have hcut : Text.lines ((l :: lines).map Line.text) = l.text ++
        afterFirst (CatalogTypes.text "\n") (lines.map Line.text) :=
      intercalate_cons _ _ _
    have htail := lineTail_afterFirst (lines.map Line.text)
    rw [hcut]
    generalize afterFirst (CatalogTypes.text "\n") (lines.map Line.text) = tail at htail ⊢
    have hmark {s : Text} (hg : Gap s) (t : Text) (ht : t.head? ≠ some 0xFEFF) :
        (s ++ t).head? ≠ some 0xFEFF := by
      cases s with
      | nil => exact ht
      | cons c s =>
        rintro ⟨⟩
        exact absurd (hg 0xFEFF List.mem_cons_self) (by decide)
    have hkey (c : CodePoint) (hc : isKeyPart c) : decide (c = 0xFEFF) = false := by
      simp only [isKeyPart, Bool.and_eq_true, decide_eq_true_eq] at hc
      exact decide_eq_false hc.2
    unfold Line.text
    rw [List.append_assoc]
    refine hmark hs.indent _ ?_
    cases ha : l.assignment with
    | some a =>
      rw [Option.elim_some, List.append_assoc]
      intro h
      exact absurd ((hs.assignment a ha).ends_text hkey _ _ h) (by decide)
    | none =>
      rw [Option.elim_none, List.nil_append, List.append_assoc]
      refine hmark hs.gap _ ?_
      cases l.remark with
      | none => exact fun h => absurd (htail _ h) (by decide)
      | some words => exact fun h => absurd (Option.some.inj h) (by decide)

theorem statements_lines (hl : ∀ l ∈ lines, l.Simple) :
    statements (Text.lines (lines.map Line.text)) = lines.filterMap Line.statement? := by
  rw [statements, if_neg (head?_lines hl)]
  exact @statementsFrom_lines lines [] hl (List.forall_mem_nil _) _ le_rfl 1

theorem bindings_lines (hl : ∀ l ∈ lines, l.Simple) :
    bindings (statements (Text.lines (lines.map Line.text))) =
      (assignments lines).map fun (name, value) => ⟨name, some value⟩ := by
  rw [statements_lines hl, bindings, assignments, List.filterMap_filterMap, List.map_filterMap]
  refine congrArg (List.filterMap · lines) (funext fun l => ?_)
  unfold Line.statement?
  cases l.assignment <;> cases l.remark <;> rfl

theorem complaints_lines (hl : ∀ l ∈ lines, l.Simple) :
    complaints (statements (Text.lines (lines.map Line.text))) = [] := by
  rw [statements_lines hl, complaints, List.filterMap_filterMap, List.filterMap_eq_nil_iff]
  intro l _
  unfold Line.statement?
  cases l.assignment <;> cases l.remark <;> rfl

end File
end CatalogTypes.EnvFile
