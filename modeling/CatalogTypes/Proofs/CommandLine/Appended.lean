import CatalogTypes.CommandLine.Arguments
import CatalogTypes.Proofs.Results
import CatalogTypes.Proofs.Text.Pieces

/-! # An output directory behind the other arguments

Arguments are taken one after the other, so an output directory behind all others is the last thing
that is taken: a request that is run is run with that directory, and one that is not run stays so.
Behind two hyphens the directory is a value like all that stands there, and such requests are
refused with or without it.
-/
namespace CatalogTypes.CommandLine
open Text
variable {arguments front back : List Text} {directory : Text} {o : Options} {extra : List Text}
  {ts tail : List Token}

def outputArgument (directory : Text) : Text :=
  text "--output-dir" ++ ('=' : CodePoint) :: directory

/-- Arguments of which none is the option for the output directory. -/
def GivesNoOutput (arguments : List Text) : Prop :=
  ∀ ts, tokens arguments = .ok ts → ∀ isShort attached, .option .outputDir isShort attached ∉ ts

section Tokens

theorem lookup_spellings_of_equals {t : Text} (h : ('=' : CodePoint) ∈ t) :
    spellings.lookup t = none := by
  have hnone : ∀ entry ∈ spellings, ('=' : CodePoint) ∉ entry.1 := by decide
  rw [List.lookup_eq_none_iff]
  rintro entry hm
  rw [bne_iff_ne]
  rintro rfl
  exact hnone entry hm h

theorem cutAtEquals_append {name : Text} (h : ('=' : CodePoint) ∉ name) (value : Text) :
    cutAtEquals (name ++ ('=' : CodePoint) :: value) = (name, some value) := by
  have hname : (name ++ ('=' : CodePoint) :: value).takeWhile (· ≠ ('=' : CodePoint)) = name := by
    refine takeWhile_append_of_ends ?_ (ends_cons (by decide) value)
    intro c hc
    rw [decide_eq_true_eq]
    rintro rfl
    exact h hc
  simp only [cutAtEquals, hname]
  rw [if_pos (by simp)]
  simp

theorem length_outputArgument (directory : Text) :
    (outputArgument directory).length = directory.length + 13 := by
  have hname : (text "--output-dir").length = 12 := by decide
  rw [outputArgument, List.length_append, hname, List.length_cons]
  omega

theorem outputArgument_ne_separator (directory : Text) : outputArgument directory ≠ text "--" := by
  intro h
  have hlength := congrArg List.length h
  rw [length_outputArgument] at hlength
  exact absurd hlength (by simp [text])

theorem token_outputArgument (directory : Text) :
    token (outputArgument directory) = .ok (.option .outputDir false (some directory)) := by
  have hlookup : spellings.lookup (outputArgument directory) = none :=
    lookup_spellings_of_equals (List.mem_append_right _ List.mem_cons_self)
  have hhead : ¬ (outputArgument directory).head? ≠ some ('-' : CodePoint) := fun h => h rfl
  have hlength : (outputArgument directory).length ≠ 1 := by
    rw [length_outputArgument]
    omega
  have hcut : cutAtEquals (outputArgument directory) = (text "--output-dir", some directory) :=
    cutAtEquals_append (by decide) directory
  have hname : spellings.lookup (text "--output-dir") = some .outputDir := by decide
  have hlong : isLong (text "--output-dir") = true := by decide
  rw [token, if_neg hhead, hlookup]
  simp only
  rw [if_neg hlength, hcut]
  simp only
  rw [hname, hlong]
  rfl

theorem tokens_outputArgument (directory : Text) :
    tokens [outputArgument directory] = .ok [.option .outputDir false (some directory)] := by
  rw [tokens, if_neg (outputArgument_ne_separator directory), token_outputArgument]
  rfl

theorem tokens_separator (rest : List Text) :
    tokens (text "--" :: rest) = .ok (.separator :: rest.map .value) := by
  rw [tokens, if_pos rfl]

theorem tokens_append (h : text "--" ∉ front) (back : List Text) :
    tokens (front ++ back) = (tokens front).bind fun ts => (tokens back).map (ts ++ ·) := by
  induction front with
  | nil =>
    rw [List.nil_append, tokens]
    cases tokens back <;> rfl
  | cons given front ih =>
    have hgiven : given ≠ text "--" := fun he => h (he ▸ List.mem_cons_self)
    rw [List.cons_append, tokens, tokens, if_neg hgiven, if_neg hgiven,
      ih fun hm => h (List.mem_cons_of_mem _ hm)]
    cases token given with
    | error e => rfl
    | ok first =>
      cases tokens front with
      | error e => rfl
      | ok ts => cases tokens back <;> rfl

end Tokens

section Taking

/-- Tokens whose first one is not a value, so that no option takes it. -/
def Detached (tail : List Token) : Prop := ∀ given rest, tail ≠ .value given :: rest

def Request.isRun : Request → Bool
  | .run _ => true
  | _ => false

theorem Request.exists_of_isRun {r : Request} (h : r.isRun) : ∃ o, r = .run o := by
  cases r with
  | run o => exact ⟨o, rfl⟩
  | help => cases h
  | refused e => cases h

theorem take_values (o : Options) (extra values : List Text) :
    take o extra (values.map .value) =
      if (extra ++ values).isEmpty then .run o else .refused (.unrecognized (extra ++ values)) := by
  induction values generalizing extra with
  | nil => rw [List.map_nil, take, List.append_nil]
  | cons given values ih => rw [List.map_cons, take, ih, List.append_assoc, List.singleton_append]

theorem take_separator (o : Options) (extra values : List Text) :
    take o extra (.separator :: values.map .value) =
      .refused (.unrecognized (extra ++ text "--" :: values)) := by
  rw [take, take_values, List.append_assoc, List.singleton_append, if_neg (by simp)]

theorem foldl_set_outputDir (names : List OptionName) (h : o.outputDir = []) :
    (names.foldl (·.set []) o).outputDir = [] := by
  induction names generalizing o with
  | nil => exact h
  | cons name names ih =>
    refine ih ?_
    cases name with
    | outputDir => rfl
    | _ => exact h

theorem take_expecting {name : OptionName} (hv : name.takesValue = true) (isShort : Bool)
    (ht : Detached tail) :
    take o extra (.option name isShort none :: tail) = .refused (.expectedValue name) := by
  rw [take.eq_def]
  simp only
  rw [if_pos hv]
  split
  next given rest => exact absurd rfl (ht given rest)
  next => rfl

theorem take_flags {name : OptionName} (hv : ¬ name.takesValue = true) (isShort : Bool)
    (attached : Option Text) (rest : List Token) :
    take o extra (.option name isShort attached :: rest) =
      match flags name isShort attached with
      | .error e => .refused e
      | .ok names =>
        if names.contains .help then .help else take (names.foldl (·.set []) o) extra rest := by
  rw [take.eq_def]
  exact if_neg hv

/-- What tokens do in front of others: they decide alone that the request is not run, or the others
are taken with what they have set. -/
inductive Course (o : Options) (extra : List Text) (ts : List Token) : Prop where
  | decides (r : Request) (hr : r.isRun = false)
    (h : ∀ tail, Detached tail → take o extra (ts ++ tail) = r)
  | leaves (set : Options) (left : List Text) (ho : set.outputDir = [])
    (h : ∀ tail, Detached tail → take o extra (ts ++ tail) = take set left tail)

theorem Course.before {o' : Options} {extra' : List Text} {rest : List Token}
    (hc : Course o' extra' rest)
    (h : ∀ tail, take o extra (ts ++ tail) = take o' extra' (rest ++ tail)) :
    Course o extra ts := by
  cases hc with
  | decides r hr hd => exact .decides r hr fun tail ht => (h tail).trans (hd tail ht)
  | leaves set left ho hl => exact .leaves set left ho fun tail ht => (h tail).trans (hl tail ht)

theorem outputDir_set {name : OptionName} (h : name ≠ .outputDir) (value : Text) :
    (o.set value name).outputDir = o.outputDir := by
  cases name with
  | outputDir => exact absurd rfl h
  | _ => rfl

/-- The option for the output directory is the only one that sets it. -/
theorem course_take (ho : o.outputDir = [])
    (hts : ∀ isShort attached, .option .outputDir isShort attached ∉ ts) :
    Course o extra ts := by
  fun_induction take o extra ts with
  | case1 o extra => exact .leaves o extra ho fun _ _ => rfl
  | case2 o extra => exact .leaves o extra ho fun _ _ => rfl
  | case3 o extra rest ih =>
    have hrest := ih ho fun isShort attached hm => hts isShort attached (List.mem_cons_of_mem _ hm)
    exact hrest.before fun tail => by rw [List.cons_append, take]
  | case4 o extra given rest ih =>
    have hrest := ih ho fun isShort attached hm => hts isShort attached (List.mem_cons_of_mem _ hm)
    exact hrest.before fun tail => by rw [List.cons_append, take]
  | case5 o extra given rest ih =>
    have hrest := ih ho fun isShort attached hm => hts isShort attached (List.mem_cons_of_mem _ hm)
    exact hrest.before fun tail => by rw [List.cons_append, take]
  | case6 o extra name isShort rest hv value ih =>
    have hname : name ≠ .outputDir := by
      rintro rfl
      exact hts _ _ List.mem_cons_self
    have hrest := ih ((outputDir_set hname _).trans ho)
      fun isShort attached hm => hts isShort attached (List.mem_cons_of_mem _ hm)
    exact hrest.before fun tail => by rw [List.cons_append, take, if_pos hv]
  | case7 o extra name isShort hv given rest ih =>
    have hname : name ≠ .outputDir := by
      rintro rfl
      exact hts _ _ List.mem_cons_self
    have hrest := ih ((outputDir_set hname _).trans ho)
      fun isShort attached hm =>
        hts isShort attached (List.mem_cons_of_mem _ (List.mem_cons_of_mem _ hm))
    exact hrest.before fun tail => by rw [List.cons_append, List.cons_append, take, if_pos hv]
  | case8 o extra name isShort rest hv hne =>
    refine .decides (.refused (.expectedValue name)) rfl fun tail ht => ?_
    have hnext : Detached (rest ++ tail) := by
      cases rest with
      | nil => exact ht
      | cons first rest =>
        intro given more he
        rw [List.cons_append, List.cons.injEq] at he
        exact hne given rest (by rw [he.1])
    exact take_expecting hv isShort hnext
  | case9 o extra name isShort attached rest hv e he =>
    refine .decides (.refused e) rfl fun tail _ => ?_
    rw [List.cons_append, take_flags hv, he]
  | case10 o extra name isShort attached rest hv names hn hh =>
    refine .decides .help rfl fun tail _ => ?_
    rw [List.cons_append, take_flags hv, hn]
    exact if_pos hh
  | case11 o extra name isShort attached rest hv names hn hh ih =>
    have hrest := ih (foldl_set_outputDir names ho)
      fun isShort attached hm => hts isShort attached (List.mem_cons_of_mem _ hm)
    refine hrest.before fun tail => ?_
    rw [List.cons_append, take_flags hv, hn]
    exact if_neg hh

inductive Redirected (directory : Text) : Request → Request → Prop where
  | run (o : Options) (ho : o.outputDir = []) :
    Redirected directory (.run o) (.run { o with outputDir := attachedValue directory })
  | help : Redirected directory .help .help
  | refused (e e' : UsageError) : Redirected directory (.refused e) (.refused e')

theorem Redirected.eq_run {r : Request} (h : Redirected directory (.run o) r) :
    o.outputDir = [] ∧ r = .run { o with outputDir := attachedValue directory } := by
  cases h with
  | run o ho => exact ⟨ho, rfl⟩

theorem redirected_of_isRun_eq_false {r : Request} (h : r.isRun = false) :
    Redirected directory r r := by
  cases r with
  | run o => cases h
  | help => exact .help
  | refused e => exact .refused e e

theorem detached_cons {first : Token} (h : ∀ given, first ≠ .value given) (rest : List Token) :
    Detached (first :: rest) := by
  rintro given more he
  exact h given (List.cons.inj he).1

theorem redirected_of_separator (h : GivesNoOutput (front ++ text "--" :: back))
    (hf : text "--" ∉ front) :
    Redirected directory (request (front ++ text "--" :: back))
      (request (front ++ text "--" :: back ++ [outputArgument directory])) := by
  have hbefore := tokens_append hf (text "--" :: back)
  have hafter := tokens_append hf (text "--" :: (back ++ [outputArgument directory]))
  rw [tokens_separator] at hbefore hafter
  rw [List.append_assoc, List.cons_append, request, request, hafter, hbefore]
  cases hts : tokens front with
  | error e => exact .refused e e
  | ok ts =>
    rw [hts] at hbefore
    have hnone (isShort : Bool) (attached : Option Text) :
        .option .outputDir isShort attached ∉ ts :=
      fun hm => h _ hbefore isShort attached (List.mem_append_left _ hm)
    have hdetached (values : List Text) : Detached (.separator :: values.map .value) :=
      detached_cons (by simp) _
    have hcourse : Course .none [] ts := course_take rfl hnone
    cases hcourse with
    | decides r hr hd =>
      simp only [Except.bind, Except.map, hd _ (hdetached _)]
      exact redirected_of_isRun_eq_false hr
    | leaves set left ho hl =>
      simp only [Except.bind, Except.map, hl _ (hdetached _), take_separator]
      exact .refused _ _

theorem redirected_of_no_separator (h : GivesNoOutput arguments) (hs : text "--" ∉ arguments) :
    Redirected directory (request arguments)
      (request (arguments ++ [outputArgument directory])) := by
  rw [request, request, tokens_append hs, tokens_outputArgument]
  cases hts : tokens arguments with
  | error e => exact .refused e e
  | ok ts =>
    have hdetached : Detached [.option .outputDir false (some directory)] :=
      detached_cons (by simp) []
    have hcourse : Course .none [] ts := course_take rfl (h ts hts)
    cases hcourse with
    | decides r hr hd =>
      have hbefore := hd [] fun _ _ => nofun
      rw [List.append_nil] at hbefore
      simp only [Except.bind, Except.map, hd _ hdetached, hbefore]
      exact redirected_of_isRun_eq_false hr
    | leaves set left ho hl =>
      have hbefore := hl [] fun _ _ => nofun
      rw [List.append_nil] at hbefore
      simp only [Except.bind, Except.map, hl _ hdetached, hbefore]
      cases left with
      | nil => exact .run set ho
      | cons first left => exact .refused _ _

/-- An output directory behind other arguments is the one with which they are run, if they are run.
Else the request ends as it does without the directory. -/
theorem request_append_outputArgument (directory : Text) (h : GivesNoOutput arguments) :
    Redirected directory (request arguments)
      (request (arguments ++ [outputArgument directory])) := by
  by_cases hs : text "--" ∈ arguments
  · obtain ⟨front, back, rfl, hfront⟩ := List.eq_append_cons_of_mem hs
    exact redirected_of_separator h hfront
  · exact redirected_of_no_separator h hs

end Taking

end CatalogTypes.CommandLine
