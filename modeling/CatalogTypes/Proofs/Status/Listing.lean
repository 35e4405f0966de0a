import CatalogTypes.Proofs.Status.Answers
import CatalogTypes.Proofs.Generation.History
import CatalogTypes.Proofs.Package.Texts

/-! # Listings

An index is plain text, so what is read is what was written, and it exports the identifiers of its
units. After any history the listing of a directory thus gives, for each catalog, the units of the
latest run that made types of it. Only an index whose path is too long to be asked for keeps the
listing from an answer.
-/
namespace CatalogTypes
open FileTree Package Identifier PackageRun Generator

namespace Status
variable {root : Path} {top : Location} {runs : List PackageRun} {kind : CatalogKind} {w : World}

def Addressable (root : Path) (kind : CatalogKind) : Prop :=
  nameSize (indexPath root kind).toText ≤ longestPath

instance (root : Path) (kind : CatalogKind) : Decidable (Addressable root kind) :=
  inferInstanceAs (Decidable (_ ≤ _))

theorem isFileName_indexName : IsFileName indexName :=
  isFileName_of_mem_packageNames List.mem_cons_self

theorem indexPath_eq (root : Path) (kind : CatalogKind) :
    indexPath root kind = (Output.place root (fullName kind.name)).child indexName := by
  rw [place_eq root (ofText_fullName kind), Path.child, List.append_assoc]
  rfl

theorem fitsIn_iff : FitsIn (Output.place root (fullName kind.name)) indexName ↔
    Addressable root kind := by
  rw [Addressable, indexPath_eq, FitsIn]
  exact and_iff_left (by decide)

section Tree
variable {tree : FileTree} (h : Ready tree root top)
include h

theorem resolve_indexPath : tree.resolve (indexPath root kind) =
    if Addressable root kind then .ok (top ++ [kind.name] ++ [indexName])
    else .error (.file .nameTooLong (indexPath root kind).toText) := by
  have hr := resolve_child (h.package kind) isFileName_indexName.isName
  rw [← indexPath_eq] at hr
  simp only [fitsIn_iff] at hr
  exact hr

theorem askable_iff : Askable tree root kind ↔ Addressable root kind := by
  constructor
  · intro ha
    by_contra hf
    have hr : tree.resolve (indexPath root kind) = _ := resolve_indexPath h
    rw [if_neg hf] at hr
    exact ha (tooLong_of_resolve hr)
  · intro hf ht
    have hr : tree.resolve (indexPath root kind) = _ := resolve_indexPath h
    rw [if_pos hf] at hr
    cases (resolve_of_tooLong ht).symm.trans hr

theorem indexIn_eq (hf : Addressable root kind) :
    indexIn tree root kind = tree.get? (top ++ [kind.name] ++ [indexName]) := by
  rw [indexIn, entryAt, lookup, resolve_indexPath h, if_pos hf]
  rfl

end Tree

theorem decode_bytesOf {content : Text} (h : content.IsPlain) :
    Utf8.decode (bytesOf content) = .ok content := by
  have hbytes : bytesOf content = content.map fun c => UInt8.ofNat c.val := by
    rw [bytesOf, Utf8.encode_of_isPlain h]
    rfl
  rw [hbytes, Utf8.decode_of_isPlain h]

def listed (runs : List PackageRun) (kind : CatalogKind) : Option (List Text) :=
  (latest kind runs).map fun r => r.units.map TypeUnit.identifier

section Indexes
variable (h : Tracks root top runs w.files)
include h

theorem indexIn_of_tracks (hf : Addressable root kind) : indexIn w.files root kind =
    (latest kind runs).map fun r =>
      .file (bytesOf (indexFile kind.name (r.units.map TypeUnit.exportLine))) :=
  (indexIn_eq h.ready hf).trans (h.index kind)

theorem legible_of_addressable (hf : Addressable root kind) : Legible w.files root kind := by
  refine ⟨(askable_iff h.ready).mpr hf, fun {bytes} hi => ?_⟩
  rw [indexIn_of_tracks h hf] at hi
  cases hl : latest kind runs with
  | none => simp [hl] at hi
  | some r =>
    rw [hl] at hi
    cases hi
    exact ⟨_, decode_bytesOf (isPlain_indexFile kind (h.wellFormed hl))⟩

theorem exported_of_tracks (hf : Addressable root kind) :
    exported (indexIn w.files root kind) = listed runs kind := by
  rw [indexIn_of_tracks h hf, listed]
  cases hl : latest kind runs with
  | none => rfl
  | some r =>
    have hi := h.wellFormed hl
    have hplain := isPlain_indexFile kind hi
    rw [Option.map_some, exported, decode_bytesOf hplain]
    simp only [Except.toOption, Option.map_some, hplain.unifyLineEndings_eq,
      exportsOf_indexFile kind hi]

theorem answer_listAll {kinds : List CatalogKind} (hf : ∀ kind ∈ kinds, Addressable root kind) :
    ((listAll root kinds).result w).1 = .ok (kinds.filterMap fun kind =>
      (listed runs kind).map (kind, ·)) := by
  have hlisting : listing w.files root kinds = kinds.filterMap fun kind =>
      (listed runs kind).map (kind, ·) :=
    List.filterMap_congr fun kind hk => by rw [exported_of_tracks h (hf kind hk)]
  rw [says_listAll fun kind hk => legible_of_addressable h (hf kind hk), hlisting]

theorem answer_checkAll {kinds : List CatalogKind} (hf : ∀ kind ∈ kinds, Addressable root kind) :
    ((checkAll root kinds).result w).1 = .ok (kinds.all fun kind => (latest kind runs).isSome) := by
  have hall : (kinds.all fun kind => (indexIn w.files root kind).isSome) =
      kinds.all fun kind => (latest kind runs).isSome := by
    rw [Bool.eq_iff_iff, List.all_eq_true, List.all_eq_true]
    refine forall₂_congr fun kind hk => ?_
    rw [indexIn_of_tracks h (hf kind hk), Option.isSome_map]
  rw [says_checkAll fun kind hk => (askable_iff h.ready).mpr (hf kind hk), hall]

theorem answer_available_error (hf : ¬ Addressable root kind) :
    ∃ e, ((available root).result w).1 = .error e := by
  cases hr : ((available root).result w).1 with
  | error e => exact ⟨e, rfl⟩
  | ok found =>
    exact absurd ((askable_iff h.ready).mp (available_ok_iff.mp ⟨found, hr⟩ kind).askable) hf

theorem answer_complete_error (hf : ¬ Addressable root kind) :
    ∃ e, ((complete root).result w).1 = .error e := by
  cases hr : ((complete root).result w).1 with
  | error e => exact ⟨e, rfl⟩
  | ok all => exact absurd ((askable_iff h.ready).mp (complete_ok_iff.mp ⟨all, hr⟩ kind)) hf

end Indexes

theorem answer_available (root : Path) (w : World) :
    ∃ log, ((available root).result w).1 =
      ((listAll root CatalogKind.all).result { w with log := log }).1 := by
  rw [available, Run.result_bind, Run.result_info]
  simp only
  rw [Run.result_bind]
  generalize w.log ++ _ = log
  refine ⟨log, ?_⟩
  split
  next found next hr =>
    rw [hr]
    cases found with
    | nil => rfl
    | cons first found => rfl
  next hr => rw [hr]

theorem answer_complete (root : Path) (w : World) :
    ∃ log, ((complete root).result w).1 =
      ((checkAll root CatalogKind.all).result { w with log := log }).1 := by
  rw [complete, Run.result_bind, Run.result_info]
  simp only
  rw [Run.result_bind]
  generalize w.log ++ _ = log
  refine ⟨log, ?_⟩
  split
  next all next hr =>
    rw [hr]
    cases all with
    | false => rfl
    | true => rfl
  next hr => rw [hr]

/-- After any history that began in a directory without indexes, and in which all files could be
written, the listing and the check answer unless the path of an index is too long. The listing then
gives the identifiers of the latest run that made types of each catalog, and the check tells whether
there was such a run for both. -/
theorem listing_exact {source root : Path} {before start w : World} {base : Location}
    {g : Generator} {runs : List PackageRun} (hr : before.files.LeadsTo root base)
    (hn : ∀ kind : CatalogKind, before.files.get? (base ++ [scope] ++ [kind.name] ++ [indexName]) =
      none)
    (hc : (create source (.disk root)).result before = (.ok g, start))
    (h : History root start runs w) :
    ((∃ found, ((available root).result w).1 = .ok found) ↔ ∀ kind, Addressable root kind) ∧
    ((∃ all, ((complete root).result w).1 = .ok all) ↔ ∀ kind, Addressable root kind) ∧
    ((∀ kind, Addressable root kind) →
      ((available root).result w).1 =
        .ok (CatalogKind.all.filterMap fun kind => (listed runs kind).map (kind, ·)) ∧
      ((complete root).result w).1 = .ok (CatalogKind.all.all fun kind =>
        (latest kind runs).isSome)) := by
  have ht := h.tracks (tracks_of_create hr hc hn)
  have hlist : (∀ kind, Addressable root kind) → ((available root).result w).1 =
      .ok (CatalogKind.all.filterMap fun kind => (listed runs kind).map (kind, ·)) := by
    intro hf
    obtain ⟨log, ha⟩ := answer_available root w
    rw [ha]
    exact answer_listAll (w := { w with log := log }) ht fun kind _ => hf kind
  have hcheck : (∀ kind, Addressable root kind) →
      ((complete root).result w).1 = .ok (CatalogKind.all.all fun kind =>
        (latest kind runs).isSome) := by
    intro hf
    obtain ⟨log, ha⟩ := answer_complete root w
    rw [ha]
    exact answer_checkAll (w := { w with log := log }) ht fun kind _ => hf kind
  refine ⟨⟨?_, fun hf => ⟨_, hlist hf⟩⟩, ⟨?_, fun hf => ⟨_, hcheck hf⟩⟩, fun hf =>
    ⟨hlist hf, hcheck hf⟩⟩
  · rintro ⟨found, hfound⟩ kind
    by_contra hk
    obtain ⟨e, he⟩ := answer_available_error ht hk
    cases hfound.symm.trans he
  · rintro ⟨all, hall⟩ kind
    by_contra hk
    obtain ⟨e, he⟩ := answer_complete_error ht hk
    cases hall.symm.trans he

def generatorHere : Generator := ⟨Path.here, .disk Path.here⟩

def createdHere : World :=
  ((create Path.here (.disk Path.here)).result (withCatalogs "[" oneSection)).2

theorem listing_exact_section : ∃ runs w, History Path.here createdHere runs w ∧
    ((available Path.here).result w).1 = .ok [(.sections, ["A"])] ∧
    ((complete Path.here).result w).1 = .ok false := by
  have hc : (create Path.here (.disk Path.here)).result (withCatalogs "[" oneSection) =
      (.ok generatorHere, createdHere) := Prod.ext rfl rfl
  have hn : ∀ kind : CatalogKind,
      (withCatalogs "[" oneSection).files.get? ([] ++ [scope] ++ [kind.name] ++ [indexName]) =
        none := by
    intro kind
    cases kind <;> decide
  have hu : generatorHere.Undisturbed .sections createdHere :=
    undisturbed_of_found (by decide +kernel)
  have hf : ∀ kind, Addressable Path.here kind := by
    intro kind
    cases kind <;> decide
  have h : History Path.here createdHere _ _ := .one .start rfl hu
  have ha := answer_generate hu rfl (tracks_of_create ⟨rfl, rfl⟩ hc hn).ready
  obtain ⟨hlist, hcheck⟩ := (listing_exact ⟨rfl, rfl⟩ hn hc h).2.2 hf
  rw [ha] at hlist hcheck
  refine ⟨_, _, h, hlist.trans ?_, hcheck.trans ?_⟩
  · exact congrArg _ (by decide +kernel)
  · exact congrArg _ (by decide +kernel)

/-- A path of 4062 bytes that leads into a directory and out of it again. -/
def longName : Text := List.replicate 210 ('d' : CodePoint)

def longRoot : Path := ⟨.relative, (List.replicate 18 [longName, Path.up]).flatten ++ [longName]⟩

def longWorld : World :=
  ⟨⟨[([longName], .directory),
    ([CatalogKind.sections.fileName], .file (Utf8.encodeAll oneSection))], []⟩,
    .empty [], [], [], []⟩

/-- Below a root with a long path a generator can be created, and yet nothing can be listed. -/
theorem listing_fails_below_long_root : ∃ g start, longWorld.files.LeadsTo longRoot [longName] ∧
    (create Path.here (.disk longRoot)).result longWorld = (.ok g, start) ∧
    History longRoot start [] start ∧
    ∀ found, ((available longRoot).result start).1 ≠ .ok found := by
  have hr : longWorld.files.LeadsTo longRoot [longName] :=
    ⟨eq_ok_of_toOption (by decide +kernel), by decide⟩
  have hn : ∀ kind : CatalogKind,
      longWorld.files.get? ([longName] ++ [scope] ++ [kind.name] ++ [indexName]) = none := by
    intro kind
    cases kind <;> decide
  have hk : ¬ Addressable longRoot .contentTypes := by decide +kernel
  have hok : ((create Path.here (.disk longRoot)).result longWorld).1.isOk := by decide +kernel
  rcases hc : (create Path.here (.disk longRoot)).result longWorld with ⟨answer, start⟩
  rw [hc] at hok
  cases answer with
  | error e => cases hok
  | ok g =>
    refine ⟨g, start, hr, rfl, .start, ?_⟩
    intro found hfound
    obtain ⟨e, he⟩ := answer_available_error (tracks_of_create hr hc hn) hk
    cases hfound.symm.trans he

end Status
end CatalogTypes
