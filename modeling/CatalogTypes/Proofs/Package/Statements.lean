import CatalogTypes.Proofs.Files.Spelling
import CatalogTypes.Proofs.Package.Comment
import CatalogTypes.Proofs.Package.Exports
import CatalogTypes.Proofs.TypeBox.Keys

/-! # Statements read back

A file is read as a module of its language has it: statements between gaps and comments. Those that
occur here bring names in from another module, pass names on from one, or declare a name. Each is
read up to its end as it is written, and then reading goes on behind it.
-/
namespace CatalogTypes.Package
open Text Identifier TypeBox TypeBox.Expr

/-- A statement of a module, as far as names are bound by it. -/
inductive Statement where
  | imports (names : List Text) (source : Text)
  | exports (names : List Text) (source : Text)
  | constant (name : Text)
  | staticType (name schema : Text)
  deriving DecidableEq

namespace Statement

def names : Statement → List Text
  | imports names _ => names
  | exports names _ => names
  | constant name => [name]
  | staticType name _ => [name]

def source? : Statement → Option Text
  | imports _ source => some source
  | exports _ source => some source
  | constant _ => none
  | staticType _ _ => none

def name? : Text → Option (Text × Text)
  | [] => none
  | c :: rest =>
    if isNamePart c && !c.isDigit then some ((c :: rest).takeWhile isNamePart,
      (c :: rest).dropWhile isNamePart) else none

def item? (t : Text) : Option Text := do
  let (name, rest) ← name? (t.dropWhile isGap)
  if rest.all isGap then some name else none

def clause? (t : Text) : Option (List Text × Text × Text) := do
  let t ← after? "\x7b" t
  let names ← (split ',' (t.takeWhile (· ≠ '\x7d'))).mapM item?
  let t ← after? "\x7d from '" (t.dropWhile (· ≠ '\x7d'))
  let rest ← after? "';" (t.dropWhile (· ≠ .apostrophe))
  return (names, t.takeWhile (· ≠ .apostrophe), rest)

/-- The name of a constant, whose value is skipped. -/
def constant? (t : Text) : Option (Text × Text) := do
  let (name, t) ← name? t
  let t ← after? " = " t
  let t ← skipCode ⟨[], .code⟩ t
  return (name, ← after? ";" t)

/-- The name of a type, and the constant that it is the type of. -/
def staticType? (t : Text) : Option (Text × Text × Text) := do
  let (name, t) ← name? t
  let t ← after? " = Static<typeof " t
  let (schema, t) ← name? t
  return (name, schema, ← after? ">;" t)

def first? (t : Text) : Option (Statement × Text) :=
  match after? "import " t, after? "export const " t, after? "export type " t with
  | some t, _, _ => (clause? t).map fun (names, source, rest) => (imports names source, rest)
  | none, some t, _ => (constant? t).map fun (name, rest) => (constant name, rest)
  | none, none, some t =>
    (staticType? t).map fun (name, schema, rest) => (staticType name schema, rest)
  | none, none, none =>
    ((after? "export " t).bind clause?).map fun (names, source, rest) =>
      (exports names source, rest)

def afterCommentEnd? : Text → Option Text
  | c :: d :: rest => if c = '*' ∧ d = '/' then some rest else afterCommentEnd? (d :: rest)
  | _ => none

def afterComment? (t : Text) : Option Text :=
  match after? "/*" t, after? "//" t with
  | some t, _ => afterCommentEnd? t
  | none, some t => some (t.dropWhile (· ≠ '\n'))
  | none, none => none

def allFrom : (skip : Nat) → Text → Option (List Statement)
  | _, [] => some []
  | skip + 1, _ :: rest => allFrom skip rest
  | 0, c :: rest =>
    match first? (c :: rest) with
    | some (s, after) => (allFrom (rest.length - after.length) rest).map (s :: ·)
    | none =>
      if isGap c then allFrom 0 rest
      else match afterComment? (c :: rest) with
        | some after => allFrom (rest.length - after.length) rest
        | none => none

/-- The statements of a module, if it has no others. -/
def all (t : Text) : Option (List Statement) := allFrom 0 t

theorem allFrom_eq (skip : Nat) (t : Text) : allFrom skip t = all (t.drop skip) := by
  induction t generalizing skip with
  | nil => cases skip <;> rfl
  | cons c t ih =>
    cases skip with
    | zero => rfl
    | succ skip => rw [allFrom, ih, List.drop_succ_cons]

section Reading
variable {s t name other source : Text} {x : Statement}

theorem all_of_first? (hs : s ≠ []) (h : first? (s ++ t) = some (x, t)) :
    all (s ++ t) = (all t).map (x :: ·) := by
  obtain ⟨c, s, rfl⟩ := List.exists_cons_of_ne_nil hs
  rw [List.cons_append] at h ⊢
  rw [all, allFrom, h]
  simp only [allFrom_eq, List.length_append, Nat.add_sub_cancel, List.drop_left]

theorem all_lineFeed (t : Text) : all (text "\n" ++ t) = all t := rfl

theorem all_blankLine (t : Text) : all (text "\n\n" ++ t) = all t := rfl

theorem afterCommentEnd?_of_unended (h : Unended (s ++ text "*")) (t : Text) :
    afterCommentEnd? (s ++ (commentEnd ++ t)) = some t := by
  induction s with
  | nil => rfl
  | cons c s ih =>
    obtain ⟨hc, hs⟩ := List.isChain_cons.mp h
    obtain ⟨d, rest, hd, hstar⟩ : ∃ d rest, s ++ (commentEnd ++ t) = d :: rest ∧
        (s ++ text "*").head? = some d := by
      cases s with
      | nil => exact ⟨_, _, rfl, rfl⟩
      | cons d s => exact ⟨d, _, rfl, rfl⟩
    rw [List.cons_append, hd, afterCommentEnd?, if_neg (hc d hstar), ← hd]
    exact ih hs

theorem all_of_afterComment? {c : CodePoint} (hf : first? (c :: (s ++ t)) = none)
    (hg : isGap c = false) (h : afterComment? (c :: (s ++ t)) = some t) :
    all (c :: (s ++ t)) = all t := by
  rw [all, allFrom, hf]
  simp only [hg, Bool.false_eq_true, if_false, h, allFrom_eq, List.length_append,
    Nat.add_sub_cancel, List.drop_left]

theorem all_comment (h : Unended (s ++ text "*")) (t : Text) :
    all (text "/*" ++ (s ++ (commentEnd ++ t))) = all t := by
  have hopen : text "/*" ++ (s ++ (commentEnd ++ t)) = ('/' : CodePoint) ::
      (text "*" ++ s ++ commentEnd ++ t) := by
    simp only [List.append_assoc]
    rfl
  have hend : afterComment? (('/' : CodePoint) :: (text "*" ++ s ++ commentEnd ++ t)) = some t := by
    rw [← hopen]
    exact afterCommentEnd?_of_unended h t
  rw [hopen]
  exact all_of_afterComment? rfl (by decide) hend

theorem name?_identifier (h : IsIdentifier name) (ht : Ends isNamePart t) :
    name? (name ++ t) = some (name, t) := by
  have htake := takeWhile_append_of_ends h.isNamePart_of_mem ht
  have hdrop := dropWhile_append_of_ends h.isNamePart_of_mem ht
  obtain ⟨c, rest, rfl, hc, hd, _⟩ := h
  rw [List.cons_append] at htake hdrop ⊢
  rw [name?, hc, hd, if_pos (by decide), htake, hdrop]

theorem item?_identifier (h : IsIdentifier name) {before after : Text} (hb : before.all isGap)
    (ha : after.all isGap) :
    item? (before ++ name ++ after) = some name := by
  have hname : Ends isGap (name ++ after) := by
    obtain ⟨c, rest, rfl, hc, _⟩ := h
    exact ends_cons (isGap_eq_false_of_isNamePart hc) _
  have hafter : Ends isNamePart after := by
    cases after with
    | nil => exact nofun
    | cons c after =>
      have hc := (List.all_eq_true.mp ha) c List.mem_cons_self
      exact ends_cons (Bool.eq_false_iff.mpr fun hn => absurd (isGap_eq_false_of_isNamePart hn)
        (by simp [hc])) _
  rw [item?, List.append_assoc, dropWhile_append_of_ends (List.all_eq_true.mp hb) hname,
    name?_identifier h hafter]
  exact if_pos ha

theorem not_mem_of_isIdentifier (h : IsIdentifier name) {c : CodePoint}
    (hc : isNamePart c = false) : c ∉ name :=
  fun hm => absurd (h.isNamePart_of_mem c hm) (by simp [hc])

def pair (name other source : Text) : Text :=
  "\x7b " ++ name ++ ", " ++ other ++ " \x7d from '" ++ source ++ "';"

def items (name other : Text) : Text := " " ++ name ++ ", " ++ other ++ " "

theorem not_mem_items (hn : IsIdentifier name) (ho : IsIdentifier other) :
    ('\x7d' : CodePoint) ∉ items name other := by
  simp only [items, List.mem_append, not_or]
  exact ⟨⟨⟨⟨by decide, not_mem_of_isIdentifier hn (by decide)⟩, by decide⟩,
    not_mem_of_isIdentifier ho (by decide)⟩,
    by decide⟩

theorem mapM_item?_items (hn : IsIdentifier name) (ho : IsIdentifier other) :
    (split ',' (items name other)).mapM item? = some [name, other] := by
  have hfirst : (',' : CodePoint) ∉ text " " ++ name ++ [] := by
    simp only [List.mem_append, not_or]
    exact ⟨⟨by decide, not_mem_of_isIdentifier hn (by decide)⟩, List.not_mem_nil⟩
  have hsecond : (',' : CodePoint) ∉ text " " ++ other ++ text " " := by
    simp only [List.mem_append, not_or]
    exact ⟨⟨by decide, not_mem_of_isIdentifier ho (by decide)⟩, by decide⟩
  have hpieces : split ',' (items name other) =
      [text " " ++ name ++ [], text " " ++ other ++ text " "] := by
    have hcomma : items name other = (text " " ++ name ++ []) ++ (',' : CodePoint) ::
        (text " " ++ other ++ text " ") := by
      simp only [items, List.append_assoc, List.append_nil]
      rfl
    rw [hcomma, split_append, split_of_not_mem hfirst, split_of_not_mem hsecond]
    rfl
  have hgap : (text " ").all isGap := by decide
  have hname : item? (text " " ++ name ++ []) = some name := item?_identifier hn hgap rfl
  have hother := item?_identifier ho hgap hgap
  rw [hpieces]
  simp only [List.mapM_cons, List.mapM_nil, hname, hother]
  rfl

theorem clause?_pair (hn : IsIdentifier name) (ho : IsIdentifier other)
    (hs : CodePoint.apostrophe ∉ source) (t : Text) :
    clause? (pair name other source ++ t) = some ([name, other], source, t) := by
  have hinside : ∀ c ∈ items name other, decide (c ≠ ('\x7d' : CodePoint)) :=
    fun c hc => decide_eq_true fun he => not_mem_items hn ho (he ▸ hc)
  have hsource : ∀ c ∈ source, decide (c ≠ CodePoint.apostrophe) :=
    fun c hc => decide_eq_true fun he => hs (he ▸ hc)
  have hbrace : Ends (fun c => decide (c ≠ ('\x7d' : CodePoint)))
      (text "\x7d from '" ++ (source ++ (text "';" ++ t))) :=
    ends_cons (by decide) _
  have hquote : Ends (fun c => decide (c ≠ CodePoint.apostrophe)) (text "';" ++ t) :=
    ends_cons (by decide) _
  have htext : pair name other source ++ t =
      text "\x7b" ++ (items name other ++
        (text "\x7d from '" ++ (source ++ (text "';" ++ t)))) := by
    simp only [pair, items, List.append_assoc]
    rfl
  rw [htext, clause?, after?_append]
  simp only [Option.bind_eq_bind, Option.bind_some, takeWhile_append_of_ends hinside hbrace,
    dropWhile_append_of_ends hinside hbrace, mapM_item?_items hn ho, after?_append,
    takeWhile_append_of_ends hsource hquote, dropWhile_append_of_ends hsource hquote]
  rfl

theorem all_import (hn : IsIdentifier name) (ho : IsIdentifier other)
    (hs : CodePoint.apostrophe ∉ source) (t : Text) :
    all (text "import " ++ pair name other source ++ t) =
      (all t).map (imports [name, other] source :: ·) := by
  refine all_of_first? (by simp [text]) ?_
  rw [List.append_assoc, first?, after?_append]
  simp only [clause?_pair hn ho hs]
  rfl

theorem all_export (hn : IsIdentifier name) (ho : IsIdentifier other)
    (hs : CodePoint.apostrophe ∉ source) (t : Text) :
    all (text "export " ++ pair name other source ++ t) =
      (all t).map (exports [name, other] source :: ·) := by
  refine all_of_first? (by simp [text]) ?_
  have himport (rest : Text) : after? "import " (text "export \x7b" ++ rest) = none := rfl
  have hconst (rest : Text) : after? "export const " (text "export \x7b" ++ rest) = none := rfl
  have htype (rest : Text) : after? "export type " (text "export \x7b" ++ rest) = none := rfl
  obtain ⟨rest, hrest⟩ : ∃ rest, text "export " ++ (pair name other source ++ t) =
      text "export \x7b" ++ rest := by
    refine ⟨text " " ++ name ++ ", " ++ other ++ " \x7d from '" ++ source ++ "';" ++ t, ?_⟩
    simp only [pair, List.append_assoc]
    rfl
  rw [List.append_assoc, first?, after?_append, hrest, himport, hconst, htype]
  simp only [Option.bind_some, clause?_pair hn ho hs]
  rfl

theorem all_constant (hn : IsIdentifier name) {value : Text} (hv : Code false value) (t : Text) :
    all (text "export const " ++ name ++ text " = " ++ value ++ text ";" ++ t) =
      (all t).map (constant name :: ·) := by
  refine all_of_first? (by simp [text]) ?_
  have himport (rest : Text) : after? "import " (text "export const " ++ rest) = none := rfl
  have hequals : Ends isNamePart (text " = " ++ (value ++ (text ";" ++ t))) :=
    ends_cons (by decide) _
  have hskip : skipCode ⟨[], .code⟩ (value ++ (text ";" ++ t)) = some (text ";" ++ t) :=
    skipCode_of_balanced (hv.balanced [] nofun) (by decide) t
  have hconstant : constant? (name ++ (text " = " ++ (value ++ (text ";" ++ t)))) =
      some (name, t) := by
    rw [constant?, name?_identifier hn hequals]
    simp only [Option.bind_eq_bind, Option.bind_some, after?_append, hskip]
    rfl
  simp only [List.append_assoc]
  rw [first?, himport, after?_append]
  simp only [hconstant]
  rfl

theorem all_staticType (hn : IsIdentifier name) (ho : IsIdentifier other) (t : Text) :
    all (text "export type " ++ name ++ text " = Static<typeof " ++ other ++ text ">;" ++ t) =
      (all t).map (staticType name other :: ·) := by
  refine all_of_first? (by simp [text]) ?_
  have himport (rest : Text) : after? "import " (text "export type " ++ rest) = none := rfl
  have hconst (rest : Text) : after? "export const " (text "export type " ++ rest) = none := rfl
  have hequals : Ends isNamePart (text " = Static<typeof " ++ (other ++ (text ">;" ++ t))) :=
    ends_cons (by decide) _
  have hclose : Ends isNamePart (text ">;" ++ t) := ends_cons (by decide) _
  have htype : staticType? (name ++ (text " = Static<typeof " ++ (other ++ (text ">;" ++ t)))) =
      some (name, other, t) := by
    rw [staticType?, name?_identifier hn hequals]
    simp only [Option.bind_eq_bind, Option.bind_some, after?_append, name?_identifier ho hclose]
    rfl
  simp only [List.append_assoc]
  rw [first?, himport, hconst, after?_append]
  simp only [htype]
  rfl

end Reading
end Statement
end CatalogTypes.Package
