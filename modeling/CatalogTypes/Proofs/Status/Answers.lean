import CatalogTypes.Status
import CatalogTypes.Proofs.Files.Asking

/-! # When there is an answer

A listing leaves out the packages without an index, and reports an index that is a directory. There
are two things that keep it from an answer: an index whose bytes are no text, and one whose path is
too long to be asked for. Only the latter keeps the check from an answer. In all other cases each
package is listed as its own index says.
-/
namespace CatalogTypes
open FileTree

def World.logged (w : World) (entries : Log) : World := { w with log := w.log ++ entries }

namespace Run
variable {α β : Type} {w : World} {log more : Log}

/-- A run that gives an answer, or fails, and leaves all as it is but the log. -/
def Says (run : Run α) (w : World) (answer : Except Failure α) (entries : Log) : Prop :=
  run.result w = (answer, w.logged entries)

/-- A run whose answer, and what it says, depend on the files alone. Nothing else changes. -/
def Tells (run : Run α) : Prop :=
  ∀ tree, ∃ answer entries, ∀ w : World, w.files = tree → Says run w answer entries

theorem logged_nil (w : World) : w.logged [] = w := by rw [World.logged, List.append_nil]

theorem logged_logged (w : World) (log more : Log) :
    (w.logged log).logged more = w.logged (log ++ more) := by
  simp [World.logged]

theorem says_pure (a : α) (w : World) : Says (pure a) w (.ok a) [] := by
  rw [Says, result_pure, logged_nil]

theorem says_throw (e : Failure) (w : World) : Says (throw e : Run α) w (.error e) [] := by
  rw [Says, result_throw, logged_nil]

theorem says_note (level : LogLevel) (message : Text) (w : World) :
    Says (note level message) w (.ok ()) [⟨level, message⟩] := rfl

theorem says_info (message : Text) (w : World) :
    Says (info message) w (.ok ()) [⟨.info, message⟩] := rfl

theorem says_noteAll (entries : Log) (w : World) : Says (noteAll entries) w (.ok ()) entries := rfl

theorem says_onFiles {f : FileTree → Except Failure α} {answer : Except Failure α}
    (h : f w.files = answer) :
    Says (onFiles f) w answer [] := by
  rw [Says, result_onFiles, h, logged_nil]

theorem Says.bind {run : Run α} {f : α → Run β} {a : α} {answer : Except Failure β}
    (h : Says run w (.ok a) log) (hf : Says (f a) (w.logged log) answer more) :
    Says (run >>= f) w answer (log ++ more) := by
  rw [Says, result_bind, h]
  simp only
  rw [hf, logged_logged]

theorem Says.bind_error {run : Run α} {f : α → Run β} {e : Failure}
    (h : Says run w (.error e) log) :
    Says (run >>= f) w (.error e) log := by
  rw [Says, result_bind, h]

theorem Says.ask {f : FileTree → Except Failure α} {g : α → Run β} {a : α}
    {answer : Except Failure β} (h : f w.files = .ok a) (hg : Says (g a) w answer log) :
    Says (onFiles f >>= g) w answer log :=
  (says_onFiles h).bind (by rwa [logged_nil])

theorem Says.ask_attempt {f : FileTree → Except Failure α} {g : Except Failure α → Run β}
    {a : Except Failure α} {answer : Except Failure β} (h : f w.files = a)
    (hg : Says (g a) w answer log) :
    Says ((onFiles f).attempt >>= g) w answer log := by
  rw [Says, result_bind, result_attempt, result_onFiles, h]
  exact hg

theorem Says.bind_pure {run : Run α} {a : α} (h : Says run w (.ok a) log) (f : α → β) :
    Says (run >>= fun a => pure (f a)) w (.ok (f a)) log := by
  have hpure : Says (run >>= fun a => pure (f a)) w (.ok (f a)) (log ++ []) :=
    h.bind (says_pure (f a) _)
  rwa [List.append_nil] at hpure

end Run

open Run

namespace Status
variable {root : Path} {kind : CatalogKind} {kinds : List CatalogKind} {tree : FileTree} {w : World}
  {e : Failure}

def indexIn (tree : FileTree) (root : Path) (kind : CatalogKind) : Option Entry :=
  tree.entryAt (indexPath root kind)

def exported : Option Entry → Option (List Text)
  | some (.file bytes) =>
    (Utf8.decode bytes).toOption.map fun content => Package.exportsOf content.unifyLineEndings
  | _ => none

def packageLog (root : Path) (kind : CatalogKind) (index : Option Entry) : Log :=
  if index = some .directory then
    [⟨.error, "❌ Could not read " ++ (indexPath root kind).toText ++ ": " ++
      (Failure.file .isDirectory (indexPath root kind).toText).message⟩]
  else match exported index with
    | some identifiers =>
      ⟨.info, Package.fullName kind.name ++ ":"⟩ :: (typeLines identifiers).map fun line =>
        ⟨.info, line⟩
    | none => []

def Askable (tree : FileTree) (root : Path) (kind : CatalogKind) : Prop :=
  ¬ tree.TooLong (indexPath root kind)

/-- An index that neither its path nor its bytes keep from being listed, if there is one at all. -/
structure Legible (tree : FileTree) (root : Path) (kind : CatalogKind) : Prop where
  askable : Askable tree root kind
  isText {bytes : Utf8.Bytes} (h : indexIn tree root kind = some (.file bytes)) :
    ∃ content, Utf8.decode bytes = .ok content

inductive Refused (tree : FileTree) (root : Path) (kind : CatalogKind) : Failure → Prop where
  | tooLong (h : tree.TooLong (indexPath root kind)) :
    Refused tree root kind (.file .nameTooLong (indexPath root kind).toText)
  | noText (h : Askable tree root kind) {bytes : Utf8.Bytes} {flaw : Utf8.DecodeError}
    (hi : indexIn tree root kind = some (.file bytes)) (hd : Utf8.decode bytes = .error flaw) :
    Refused tree root kind (.undecodable flaw)

theorem legible_or_refused (tree : FileTree) (root : Path) (kind : CatalogKind) :
    Legible tree root kind ∨ ∃ e, Refused tree root kind e := by
  by_cases ha : tree.TooLong (indexPath root kind)
  · exact .inr ⟨_, .tooLong ha⟩
  · by_cases ht : ∃ bytes flaw, indexIn tree root kind = some (.file bytes) ∧
      Utf8.decode bytes = .error flaw
    · obtain ⟨bytes, flaw, hi, hd⟩ := ht
      exact .inr ⟨_, .noText ha hi hd⟩
    · refine .inl ⟨ha, fun {bytes} hi => ?_⟩
      cases hd : Utf8.decode bytes with
      | error flaw => exact absurd ⟨bytes, flaw, hi, hd⟩ ht
      | ok content => exact ⟨content, rfl⟩

theorem exists?_of_askable (h : Askable tree root kind) :
    tree.exists? (indexPath root kind) = .ok (indexIn tree root kind).isSome :=
  exists?_of_not_tooLong h

theorem readText_of_directory (h : indexIn tree root kind = some .directory) :
    tree.readText (indexPath root kind) =
      .error (.file .isDirectory (indexPath root kind).toText) := by
  rw [readText, readBytes_of_directory h]
  rfl

theorem readText_of_file {bytes : Utf8.Bytes} (h : indexIn tree root kind = some (.file bytes)) :
    tree.readText (indexPath root kind) =
      ((Utf8.decode bytes).mapError Failure.undecodable).map Text.unifyLineEndings := by
  rw [readText, readBytes_of_file h]
  simp only [bind, Except.bind]
  cases Utf8.decode bytes with
  | error flaw => rfl
  | ok content => rfl

theorem says_listPackage (h : Legible w.files root kind) :
    Says (listPackage root kind) w (.ok (exported (indexIn w.files root kind)))
      (packageLog root kind (indexIn w.files root kind)) := by
  have hexists := exists?_of_askable h.askable
  cases hi : indexIn w.files root kind with
  | none =>
    rw [hi] at hexists
    exact .ask hexists (says_pure none w)
  | some entry =>
    rw [hi] at hexists
    refine .ask hexists ?_
    cases entry with
    | directory =>
      exact .ask_attempt (readText_of_directory hi) ((says_note _ _ w).bind_pure fun _ => none)
    | file bytes =>
      obtain ⟨content, hc⟩ := h.isText hi
      have hread := readText_of_file hi
      have hexported : exported (some (.file bytes)) =
          some (Package.exportsOf content.unifyLineEndings) := by
        rw [exported, hc]
        rfl
      rw [hc] at hread
      rw [packageLog, if_neg (by simp), hexported]
      exact .ask_attempt hread ((says_info _ w).bind ((says_noteAll _ _).bind_pure fun _ => some _))

theorem says_listPackage_refused (h : Refused w.files root kind e) :
    Says (listPackage root kind) w (.error e) [] := by
  cases h with
  | tooLong ha => exact (says_onFiles (exists?_of_tooLong ha)).bind_error
  | @noText ha bytes flaw hi hd =>
    have hexists := exists?_of_askable ha
    have hread := readText_of_file hi
    rw [hi] at hexists
    rw [hd] at hread
    exact .ask hexists (.ask_attempt hread (says_throw _ w).bind_error)

/-- The packages that have a text as their index, with what each of them exports. -/
def listing (tree : FileTree) (root : Path) (kinds : List CatalogKind) :
    List (CatalogKind × List Text) :=
  kinds.filterMap fun kind => (exported (indexIn tree root kind)).map (kind, ·)

def packagesLog (tree : FileTree) (root : Path) (kinds : List CatalogKind) : Log :=
  kinds.flatMap fun kind => packageLog root kind (indexIn tree root kind)

theorem listing_cons (tree : FileTree) (root : Path) (kind : CatalogKind)
    (kinds : List CatalogKind) :
    listing tree root (kind :: kinds) =
      ((exported (indexIn tree root kind)).toList.map (kind, ·)) ++ listing tree root kinds := by
  cases h : exported (indexIn tree root kind) with
  | none => simp [listing, h]
  | some identifiers => simp [listing, h]

theorem says_listAll (h : ∀ kind ∈ kinds, Legible w.files root kind) :
    Says (listAll root kinds) w (.ok (listing w.files root kinds))
      (packagesLog w.files root kinds) := by
  induction kinds generalizing w with
  | nil => exact says_pure [] w
  | cons kind kinds ih =>
    obtain ⟨hkind, hkinds⟩ := List.forall_mem_cons.mp h
    rw [listing_cons, packagesLog, List.flatMap_cons]
    refine (says_listPackage hkind).bind ?_
    have hrest : Says (listAll root kinds)
        (w.logged (packageLog root kind (indexIn w.files root kind)))
      (.ok (listing w.files root kinds)) (packagesLog w.files root kinds) := ih hkinds
    exact hrest.bind_pure fun more =>
      (exported (indexIn w.files root kind)).toList.map (kind, ·) ++ more

/-- The first package that cannot be listed ends the listing, when those before it are reported. -/
theorem says_listAll_refused {front back : List CatalogKind}
    (hf : ∀ kind ∈ front, Legible w.files root kind) (h : Refused w.files root kind e) :
    Says (listAll root (front ++ kind :: back)) w (.error e) (packagesLog w.files root front) := by
  induction front generalizing w with
  | nil => exact (says_listPackage_refused h).bind_error
  | cons first front ih =>
    obtain ⟨hfirst, hfront⟩ := List.forall_mem_cons.mp hf
    exact (says_listPackage hfirst).bind (ih (w := w.logged _) hfront h).bind_error

def listingHeadline : LogEntry := ⟨.info, "📦 Types available for import:"⟩

def listingFooter (found : List (CatalogKind × List Text)) : Log :=
  if found.isEmpty then [⟨.info,
    "No generated types found. Run the generator first: python -m cmstypes"⟩] else []

def listingLog (tree : FileTree) (root : Path) : Log :=
  [listingHeadline] ++
    (packagesLog tree root CatalogKind.all ++ listingFooter (listing tree root CatalogKind.all))

theorem says_available (h : ∀ kind ∈ CatalogKind.all, Legible w.files root kind) :
    Says (available root) w (.ok (listing w.files root CatalogKind.all))
      (listingLog w.files root) := by
  have hall : Says (listAll root CatalogKind.all) (w.logged [listingHeadline])
    (.ok (listing w.files root CatalogKind.all)) (packagesLog w.files root CatalogKind.all) :=
  says_listAll h
  rw [listingLog]
  refine (says_info _ w).bind (hall.bind ?_)
  cases listing w.files root CatalogKind.all with
  | nil => exact (says_info _ _).bind_pure fun _ => []
  | cons first rest => exact says_pure _ _

theorem says_available_refused {front back : List CatalogKind}
    (hall : CatalogKind.all = front ++ kind :: back)
    (hf : ∀ kind ∈ front, Legible w.files root kind) (h : Refused w.files root kind e) :
    Says (available root) w (.error e) ([listingHeadline] ++ packagesLog w.files root front) := by
  refine (says_info _ w).bind ?_
  rw [hall]
  exact (says_listAll_refused (w := w.logged _) hf h).bind_error

def statusHeadline : LogEntry := ⟨.info, "🔍 Types status:"⟩

def statusLine (kind : CatalogKind) (found : Bool) : LogEntry :=
  ⟨.info, "   " ++ kind.name ++ ": " ++ (if found then text "✅ generated" else "❌ not found")⟩

theorem says_checkAll (h : ∀ kind ∈ kinds, Askable w.files root kind) :
    Says (checkAll root kinds) w (.ok (kinds.all fun kind => (indexIn w.files root kind).isSome))
      (kinds.map fun kind => statusLine kind (indexIn w.files root kind).isSome) := by
  induction kinds generalizing w with
  | nil => exact says_pure true w
  | cons kind kinds ih =>
    obtain ⟨hkind, hkinds⟩ := List.forall_mem_cons.mp h
    have hrest : Says (checkAll root kinds)
        (w.logged [statusLine kind (indexIn w.files root kind).isSome])
      (.ok (kinds.all fun kind => (indexIn w.files root kind).isSome))
      (kinds.map fun kind => statusLine kind (indexIn w.files root kind).isSome) := ih hkinds
    rw [List.all_cons, Bool.and_comm, List.map_cons]
    exact .ask (exists?_of_askable hkind)
      ((says_info _ w).bind (hrest.bind_pure fun all => all && (indexIn w.files root kind).isSome))

theorem says_checkAll_refused {front back : List CatalogKind}
    (hf : ∀ kind ∈ front, Askable w.files root kind) (h : w.files.TooLong (indexPath root kind)) :
    Says (checkAll root (front ++ kind :: back)) w
      (.error (.file .nameTooLong (indexPath root kind).toText))
      (front.map fun kind => statusLine kind (indexIn w.files root kind).isSome) := by
  induction front generalizing w with
  | nil => exact (says_onFiles (exists?_of_tooLong h)).bind_error
  | cons first front ih =>
    obtain ⟨hfirst, hfront⟩ := List.forall_mem_cons.mp hf
    have hrest := ih (w := w.logged [statusLine first (indexIn w.files root first).isSome]) hfront h
    exact .ask (exists?_of_askable hfirst) ((says_info _ w).bind hrest.bind_error)

def allThere (tree : FileTree) (root : Path) : Bool :=
  CatalogKind.all.all fun kind => (indexIn tree root kind).isSome

def statusLog (tree : FileTree) (root : Path) : Log :=
  [statusHeadline] ++
    ((CatalogKind.all.map fun kind => statusLine kind (indexIn tree root kind).isSome) ++
      if allThere tree root then [] else [⟨.info, "💡 To generate the types: python -m cmstypes"⟩])

theorem says_complete (h : ∀ kind ∈ CatalogKind.all, Askable w.files root kind) :
    Says (complete root) w (.ok (allThere w.files root)) (statusLog w.files root) := by
  have hall : Says (checkAll root CatalogKind.all) (w.logged [statusHeadline])
      (.ok (allThere w.files root))
    (CatalogKind.all.map fun kind => statusLine kind (indexIn w.files root kind).isSome) :=
  says_checkAll h
  refine (says_info _ w).bind (hall.bind ?_)
  cases allThere w.files root with
  | true => exact says_pure _ _
  | false => exact (says_info _ _).bind_pure fun _ => false

theorem says_complete_refused {front back : List CatalogKind}
    (hall : CatalogKind.all = front ++ kind :: back)
    (hf : ∀ kind ∈ front, Askable w.files root kind) (h : w.files.TooLong (indexPath root kind)) :
    Says (complete root) w (.error (.file .nameTooLong (indexPath root kind).toText))
      ([statusHeadline] ++ front.map fun kind =>
        statusLine kind (indexIn w.files root kind).isSome) := by
  refine (says_info _ w).bind ?_
  rw [hall]
  exact (says_checkAll_refused (w := w.logged _) hf h).bind_error

theorem exists_first_not {α : Type} {P : α → Prop} {as : List α} (h : ¬ ∀ a ∈ as, P a) :
    ∃ front a back, as = front ++ a :: back ∧ (∀ b ∈ front, P b) ∧ ¬ P a := by
  induction as with
  | nil => exact absurd (List.forall_mem_nil P) h
  | cons first rest ih =>
    by_cases hfirst : P first
    · have hrest : ¬ ∀ a ∈ rest, P a := fun hr => h (List.forall_mem_cons.mpr ⟨hfirst, hr⟩)
      obtain ⟨front, a, back, hall, hfront, ha⟩ := ih hrest
      exact ⟨first :: front, a, back, by rw [hall, List.cons_append],
        List.forall_mem_cons.mpr ⟨hfirst, hfront⟩, ha⟩
    · exact ⟨[], first, rest, rfl, List.forall_mem_nil P, hfirst⟩

theorem tells_available (root : Path) : Tells (available root) := by
  intro tree
  by_cases h : ∀ kind ∈ CatalogKind.all, Legible tree root kind
  · refine ⟨.ok (listing tree root CatalogKind.all), listingLog tree root, ?_⟩
    rintro w rfl
    exact says_available h
  · obtain ⟨front, first, back, hall, hf, hfirst⟩ := exists_first_not h
    obtain ⟨e, he⟩ := (legible_or_refused tree root first).resolve_left hfirst
    refine ⟨.error e, [listingHeadline] ++ packagesLog tree root front, ?_⟩
    rintro w rfl
    exact says_available_refused hall hf he

theorem tells_complete (root : Path) : Tells (complete root) := by
  intro tree
  by_cases h : ∀ kind ∈ CatalogKind.all, Askable tree root kind
  · refine ⟨.ok (allThere tree root), statusLog tree root, ?_⟩
    rintro w rfl
    exact says_complete h
  · obtain ⟨front, first, back, hall, hf, hfirst⟩ := exists_first_not h
    refine ⟨.error (.file .nameTooLong (indexPath root first).toText),
      [statusHeadline] ++ front.map fun kind => statusLine kind (indexIn tree root kind).isSome, ?_⟩
    rintro w rfl
    exact says_complete_refused hall hf (not_not.mp hfirst)

theorem mem_all (kind : CatalogKind) : kind ∈ CatalogKind.all := by
  cases kind <;> decide

theorem available_ok_iff :
    (∃ found, ((available root).result w).1 = .ok found) ↔ ∀ kind, Legible w.files root kind := by
  constructor
  · rintro ⟨found, hfound⟩ kind
    by_contra hkind
    obtain ⟨front, first, back, hall, hf, hfirst⟩ :=
      exists_first_not (fun h : ∀ k ∈ CatalogKind.all, Legible w.files root k =>
        hkind (h kind (mem_all kind)))
    obtain ⟨e, he⟩ := (legible_or_refused w.files root first).resolve_left hfirst
    rw [says_available_refused hall hf he] at hfound
    cases hfound
  · intro h
    rw [says_available fun kind _ => h kind]
    exact ⟨_, rfl⟩

theorem complete_ok_iff :
    (∃ all, ((complete root).result w).1 = .ok all) ↔ ∀ kind, Askable w.files root kind := by
  constructor
  · rintro ⟨all, hall⟩ kind
    by_contra hkind
    obtain ⟨front, first, back, hkinds, hf, hfirst⟩ :=
      exists_first_not (fun h : ∀ k ∈ CatalogKind.all, Askable w.files root k =>
        hkind (h kind (mem_all kind)))
    rw [says_complete_refused hkinds hf (not_not.mp hfirst)] at hall
    cases hall
  · intro h
    rw [says_complete fun kind _ => h kind]
    exact ⟨_, rfl⟩

/-- The listing answers exactly if every index can be asked for and none is a file that is no text,
and the check exactly if every index can be asked for. Each package is then listed as its own index
says, an index that is a directory is reported and left out like one that is missing, and nothing
but the log is changed. -/
theorem answers_exact (root : Path) (w : World) :
    ((∃ found, ((available root).result w).1 = .ok found) ↔ ∀ kind, Legible w.files root kind) ∧
    ((∃ all, ((complete root).result w).1 = .ok all) ↔ ∀ kind, Askable w.files root kind) ∧
    ((∀ kind, Legible w.files root kind) →
      (available root).result w =
        (.ok (listing w.files root CatalogKind.all), w.logged (listingLog w.files root))) ∧
    ((∀ kind, Askable w.files root kind) →
      (complete root).result w =
        (.ok (allThere w.files root), w.logged (statusLog w.files root))) :=
  ⟨available_ok_iff, complete_ok_iff, fun h => says_available fun kind _ => h kind,
    fun h => says_complete fun kind _ => h kind⟩

def indexWorld (entry : Entry) : World :=
  ⟨⟨[([Package.scope], .directory), ([Package.scope, CatalogKind.contentTypes.name], .directory),
      ([Package.scope, CatalogKind.contentTypes.name, "index.ts"],
        .file (Utf8.encodeAll "export \x7b ASchema, AType \x7d")),
      ([Package.scope, CatalogKind.sections.name], .directory),
      ([Package.scope, CatalogKind.sections.name, "index.ts"], entry)], []⟩,
    .empty [], [], [], []⟩

theorem answers_exact_directory :
    (∀ kind, Legible (indexWorld .directory).files Path.here kind) ∧
    ((available Path.here).result (indexWorld .directory)).1 =
      .ok [(.contentTypes, [text "A"])] := by
  have hlegible (kind : CatalogKind) : Legible (indexWorld .directory).files Path.here kind := by
    refine ⟨fun h => ?_, fun {bytes} hi => ?_⟩
    · have hexists : (indexWorld .directory).files.exists? (indexPath Path.here kind) =
          .ok true := by
        cases kind with
        | contentTypes => exact eq_ok_of_toOption (by decide +kernel)
        | sections => exact eq_ok_of_toOption (by decide +kernel)
      cases hexists.symm.trans (exists?_of_tooLong h)
    · cases kind with
      | contentTypes =>
        have hindex : indexIn (indexWorld .directory).files Path.here .contentTypes =
          some (.file (Utf8.encodeAll "export \x7b ASchema, AType \x7d")) := by decide +kernel
        cases hi.symm.trans hindex
        exact ⟨"export \x7b ASchema, AType \x7d", eq_ok_of_toOption (by decide +kernel)⟩
      | sections =>
        have hindex : indexIn (indexWorld .directory).files Path.here .sections =
            some .directory := by decide +kernel
        cases hi.symm.trans hindex
  have hlisting : listing (indexWorld .directory).files Path.here CatalogKind.all =
      [(.contentTypes, [text "A"])] := by
    decide +kernel
  refine ⟨hlegible, ?_⟩
  rw [(answers_exact Path.here (indexWorld .directory)).2.2.1 hlegible, hlisting]

def longNamedRoot : Path := ⟨.relative, [List.replicate 256 ('d' : CodePoint)]⟩

/-- An index that is no text keeps the listing from an answer, although the other package has an
index that is. A name that is too long keeps the check from an answer too. -/
theorem answers_missing :
    (∀ found, ((available Path.here).result (indexWorld (.file [0xFF]))).1 ≠ .ok found) ∧
    (∀ found, ((available longNamedRoot).result (indexWorld .directory)).1 ≠ .ok found) ∧
    ∀ all, ((complete longNamedRoot).result (indexWorld .directory)).1 ≠ .ok all := by
  have hfails {α : Type} {answer : Except Failure α} (h : answer.isOk = false) (a : α) :
      answer ≠ .ok a := by
    rintro rfl
    cases h
  have hbytes : ((available Path.here).result (indexWorld (.file [0xFF]))).1.isOk = false := by
    decide +kernel
  have hlisting : ((available longNamedRoot).result (indexWorld .directory)).1.isOk = false := by
    decide +kernel
  have hcheck : ((complete longNamedRoot).result (indexWorld .directory)).1.isOk = false := by
    decide +kernel
  exact ⟨hfails hbytes, hfails hlisting, hfails hcheck⟩

end Status
end CatalogTypes
