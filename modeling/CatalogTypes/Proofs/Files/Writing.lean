import Mathlib.Data.List.TakeWhile
import CatalogTypes.Proofs.Files.Directories
import CatalogTypes.Proofs.Files.Paths

/-! # Files that are written

What writing a file in a directory answers depends on the name, on the text and on whether a
directory stands in the place of the file. It changes nothing but the file, so what was true of
other files and of all directories stays true.
-/
namespace CatalogTypes

namespace FileTree
open Text
variable {tree : FileTree} {p : Path} {dir place : Location} {name content t : Text}

theorem get?_put_eq (tree : FileTree) (h : place ≠ []) (entry : Entry) (other : Location) :
    (tree.put place entry).get? other = if other = place then some entry else tree.get? other := by
  by_cases ho : other = place
  · rw [if_pos ho, ho, get?_put tree h]
  · rw [if_neg ho, get?_put_ne tree ho]

def Fits (c : CodePoint) : Prop := (c.isSurrogate = false ∨ Utf8.isLoose c) ∧ c ≠ 0

instance (c : CodePoint) : Decidable (Fits c) := inferInstanceAs (Decidable (_ ∧ _))

theorem checkedText_eq_ok_iff : checkedText p = .ok t ↔ t = p.toText ∧ ∀ c ∈ p.toText, Fits c := by
  have hz : p.toText.contains 0 = true ↔ 0 ∈ p.toText := by simp
  have hd : (p.toText.dropWhile fun c => !c.isSurrogate || Utf8.isLoose c) = [] ↔
      ∀ c ∈ p.toText, c.isSurrogate = false ∨ Utf8.isLoose c := by
    simp [List.dropWhile_eq_nil_iff]
  unfold checkedText
  by_cases hf : (p.toText.dropWhile fun c => !c.isSurrogate || Utf8.isLoose c) = []
  · have hs := hd.mp hf
    by_cases h0 : p.toText.contains 0
    · simp only [hf, if_pos h0]
      constructor
      · intro h
        cases h
      · rintro ⟨_, h⟩
        exact absurd rfl (h 0 (hz.mp h0)).2
    · simp only [hf, if_neg h0, Except.ok.injEq]
      constructor
      · rintro rfl
        exact ⟨rfl, fun c hc => ⟨hs c hc, fun h => h0 (hz.mpr (h ▸ hc))⟩⟩
      · rintro ⟨h, _⟩
        exact h.symm
  · obtain ⟨c, rest, hc⟩ := List.exists_cons_of_ne_nil hf
    simp only [hc]
    constructor
    · intro h
      cases h
    · rintro ⟨_, h⟩
      exact absurd (hd.mpr fun c hc => (h c hc).1) hf

/-- A name of one part that leads neither back nor nowhere. -/
structure IsName (name : Text) : Prop where
  fits {c : CodePoint} (h : c ∈ name) : Fits c
  settled : Utf8.settled name = name
  ne_up : name ≠ Path.up

theorem checkedText_child (hc : checkedText p = .ok t) (hn : IsName name) :
    checkedText (p.child name) = .ok (p.child name).toText := by
  obtain ⟨_, hf⟩ := checkedText_eq_ok_iff.mp hc
  refine checkedText_eq_ok_iff.mpr ⟨rfl, ?_⟩
  intro c hm
  rcases Path.mem_toText_child hm with hm | rfl | hm
  · exact hf c hm
  · exact ⟨.inl (by decide), by decide⟩
  · exact hn.fits hm

/-- The names of a path below a directory, and of the path itself, must not be too long. -/
def FitsIn (p : Path) (name : Text) : Prop :=
  nameSize (p.child name).toText ≤ longestPath ∧ nameSize name ≤ longestName

instance (p : Path) (name : Text) : Decidable (FitsIn p name) := inferInstanceAs (Decidable (_ ∧ _))

theorem resolve_child (h : tree.LeadsTo p dir) (hn : IsName name) :
    tree.resolve (p.child name) =
      if FitsIn p name then .ok (dir ++ [name])
      else .error (.file .nameTooLong (p.child name).toText) := by
  obtain ⟨⟨t, ht, _⟩, hd⟩ := resolve_eq_ok_iff.mp h.1
  have hc := checkedText_child ht hn
  have hf : tree.follow (tree.origin (p.child name)) p.parts = .ok dir :=
    (follow_eq_ok_iff h.2).mpr hd
  by_cases hl : nameSize (p.child name).toText ≤ longestPath
  · rw [resolve_of_parts hc hl rfl, hf]
    by_cases hs : nameSize name ≤ longestName
    · have hst := step_of_isDirectoryAt h.2 hs hn.ne_up
      rw [if_pos ⟨hl, hs⟩]
      simp [bind, Except.bind, hst, hn.settled]
    · rw [if_neg fun hfi => hs hfi.2]
      have hst : tree.step dir name = .error .nameTooLong := by
        simp [step, h.2, Nat.lt_of_not_le hs]
      simp [bind, Except.bind, hst]
  · rw [if_neg fun hfi => hl hfi.1]
    simp [resolve, hc, bind, Except.bind, Nat.lt_of_not_le hl, throw, throwThe, MonadExceptOf.throw]

theorem openForWriting_child (h : tree.LeadsTo p dir) (hn : IsName name) :
    tree.openForWriting (p.child name) =
      if FitsIn p name then
        if tree.isDirectoryAt (dir ++ [name]) then .error (.file .isDirectory (p.child name).toText)
        else .ok (dir ++ [name], tree.put (dir ++ [name]) (.file []))
      else .error (.file .nameTooLong (p.child name).toText) := by
  rw [openForWriting, resolve_child h hn]
  by_cases hf : FitsIn p name
  · rw [if_pos hf, if_pos hf]
    by_cases hd : tree.isDirectoryAt (dir ++ [name])
    · simp [bind, Except.bind, hd, throw, throwThe, MonadExceptOf.throw]
    · simp [bind, Except.bind, hd, pure, Except.pure]
  · rw [if_neg hf, if_neg hf]
    rfl

def encoded (content : Text) : Except Failure Unit :=
  match Utf8.encode content with
  | .error e => .error (.unencodable e)
  | .ok _ => .ok ()

/-- What a file holds once a text was written to it, all or nothing. -/
def bytesOf (content : Text) : Utf8.Bytes := (Utf8.encode content).toOption.getD []

def Opens (tree : FileTree) (p : Path) (dir : Location) (name : Text) : Prop :=
  FitsIn p name ∧ tree.isDirectoryAt (dir ++ [name]) = false

instance (tree : FileTree) (p : Path) (dir : Location) (name : Text) :
    Decidable (tree.Opens p dir name) :=
  inferInstanceAs (Decidable (_ ∧ _))

def refusal (p : Path) (name : Text) : Failure :=
  .file (if FitsIn p name then .isDirectory else .nameTooLong) (p.child name).toText

theorem writeText_child_of_opens (h : tree.LeadsTo p dir) (hn : IsName name)
    (ho : tree.Opens p dir name) (content : Text) :
    (tree.writeText (p.child name) content).1 = encoded content ∧
      ∀ place, (tree.writeText (p.child name) content).2.get? place =
        if place = dir ++ [name] then some (.file (bytesOf content)) else tree.get? place := by
  have hne : dir ++ [name] ≠ [] := List.concat_ne_nil name dir
  have hopen : tree.openForWriting (p.child name) =
      .ok (dir ++ [name], tree.put (dir ++ [name]) (.file [])) := by
    rw [openForWriting_child h hn, if_pos ho.1, ho.2]
    rfl
  cases he : Utf8.encode content with
  | error e =>
    simp only [writeText, hopen, he, encoded, bytesOf, true_and]
    intro place
    exact get?_put_eq tree hne (.file []) place
  | ok bytes =>
    simp only [writeText, hopen, he, encoded, bytesOf, true_and]
    intro place
    rw [get?_put_eq _ hne, get?_put_eq _ hne]
    by_cases hpl : place = dir ++ [name]
    · rw [if_pos hpl, if_pos hpl]
      rfl
    · rw [if_neg hpl, if_neg hpl, if_neg hpl]

theorem writeText_child_of_not_opens (h : tree.LeadsTo p dir) (hn : IsName name)
    (ho : ¬ tree.Opens p dir name) (content : Text) :
    tree.writeText (p.child name) content = (.error (refusal p name), tree) := by
  have hopen : tree.openForWriting (p.child name) = .error (refusal p name) := by
    rw [openForWriting_child h hn, refusal]
    by_cases hf : FitsIn p name
    · have hd : tree.isDirectoryAt (dir ++ [name]) = true := by
        simpa using fun hd => ho ⟨hf, hd⟩
      rw [if_pos hf, if_pos hf, hd]
      rfl
    · rw [if_neg hf, if_neg hf]
  rw [writeText, hopen]

theorem workDirectory_writeText (tree : FileTree) (p : Path) (content : Text) :
    (tree.writeText p content).2.workDirectory = tree.workDirectory := by
  unfold writeText
  cases ho : tree.openForWriting p with
  | error e => rfl
  | ok opened =>
    obtain ⟨place, _, h⟩ := bind_eq_ok.mp ho
    have hput : opened.2.workDirectory = tree.workDirectory := by
      split at h
      · cases h
      · cases h
        rfl
    cases Utf8.encode content with
    | error e => exact hput
    | ok bytes => exact hput

theorem readBytes_eq_ok_iff {bytes : Utf8.Bytes} :
    tree.readBytes p = .ok bytes ↔ ∃ place, tree.resolve p = .ok place ∧
    tree.get? place = some (.file bytes) := by
  rw [readBytes, bind_eq_ok]
  constructor
  · rintro ⟨entry, hl, h⟩
    obtain ⟨place, hr, hg⟩ := map_eq_ok.mp hl
    refine ⟨place, hr, ?_⟩
    split at h
    · cases h
    · cases h
    · cases h
      exact hg
  · rintro ⟨place, hr, hg⟩
    exact ⟨_, map_eq_ok.mpr ⟨place, hr, hg⟩, rfl⟩

/-- Two trees have the same directories, and the same files but at certain places. -/
structure SameBut (changed : Location → Prop) (before after : FileTree) : Prop where
  workDirectory : after.workDirectory = before.workDirectory
  isDirectoryAt (place : Location) : after.isDirectoryAt place = before.isDirectoryAt place
  get? {place : Location} (h : ¬ changed place) : after.get? place = before.get? place

namespace SameBut
variable {changed other : Location → Prop} {before after later : FileTree}

theorem refl (changed : Location → Prop) (tree : FileTree) : SameBut changed tree tree :=
  ⟨rfl, fun _ => rfl, fun _ => rfl⟩

theorem symm (h : SameBut changed before after) : SameBut changed after before :=
  ⟨h.workDirectory.symm, fun place => (h.isDirectoryAt place).symm, fun hp => (h.get? hp).symm⟩

theorem trans (h : SameBut changed before after) (h' : SameBut changed after later) :
    SameBut changed before later :=
  ⟨h'.workDirectory.trans h.workDirectory, fun place =>
    (h'.isDirectoryAt place).trans (h.isDirectoryAt place),
    fun hp => (h'.get? hp).trans (h.get? hp)⟩

theorem mono (h : SameBut changed before after) (hc : ∀ place, changed place → other place) :
    SameBut other before after :=
  ⟨h.workDirectory, h.isDirectoryAt, fun hp => h.get? fun hpl => hp (hc _ hpl)⟩

theorem keeps (h : SameBut changed before after) : Keeps before after :=
  ⟨h.workDirectory, fun {place} hd => (h.isDirectoryAt place).trans hd⟩

theorem leadsTo_iff (h : SameBut changed before after) :
    before.LeadsTo p place ↔ after.LeadsTo p place :=
  ⟨h.keeps.leadsTo, h.symm.keeps.leadsTo⟩

theorem resolve_eq_ok_iff (h : SameBut changed before after) :
    after.resolve p = .ok place ↔ before.resolve p = .ok place :=
  ⟨h.symm.keeps.resolve, h.keeps.resolve⟩

theorem readBytes_eq_ok_iff (h : SameBut changed before after)
    (hp : ∀ place, before.resolve p = .ok place → ¬ changed place) {bytes : Utf8.Bytes} :
    after.readBytes p = .ok bytes ↔ before.readBytes p = .ok bytes := by
  rw [FileTree.readBytes_eq_ok_iff, FileTree.readBytes_eq_ok_iff]
  apply exists_congr
  intro place
  rw [h.resolve_eq_ok_iff]
  apply and_congr_right
  intro hr
  rw [h.get? (hp place hr)]

theorem opens_iff (h : SameBut changed before after) :
    before.Opens p dir name ↔ after.Opens p dir name := by
  rw [Opens, Opens, h.isDirectoryAt]

end SameBut

section Child
variable (h : tree.LeadsTo p dir) (hn : IsName name)
include h hn

theorem sameBut_writeText (content : Text) :
    SameBut (· = dir ++ [name]) tree (tree.writeText (p.child name) content).2 := by
  by_cases ho : tree.Opens p dir name
  · have hw := (writeText_child_of_opens h hn ho content).2
    refine ⟨workDirectory_writeText tree _ content, ?_, ?_⟩
    · intro place
      by_cases hpl : place = dir ++ [name]
      · have hd := ho.2
        rw [isDirectoryAt, hw, if_pos hpl, hpl, hd]
        rfl
      · rw [isDirectoryAt, hw, if_neg hpl]
        rfl
    · intro place hpl
      rw [hw, if_neg hpl]
  · rw [writeText_child_of_not_opens h hn ho]
    exact .refl _ tree

/-- Trees with the same directories answer the same, and differ as before. -/
theorem SameBut.writeText {changed : Location → Prop} {other : FileTree}
    (hs : SameBut changed tree other) (content : Text) :
    (tree.writeText (p.child name) content).1 = (other.writeText (p.child name) content).1 ∧
      SameBut changed (tree.writeText (p.child name) content).2
        (other.writeText (p.child name) content).2 := by
  have h' := hs.leadsTo_iff.mp h
  by_cases ho : tree.Opens p dir name
  · obtain ⟨ha, hw⟩ := writeText_child_of_opens h hn ho content
    obtain ⟨ha', hw'⟩ := writeText_child_of_opens h' hn (hs.opens_iff.mp ho) content
    refine ⟨ha.trans ha'.symm, ?_, ?_, ?_⟩
    · rw [workDirectory_writeText, workDirectory_writeText, hs.workDirectory]
    · intro place
      rw [(sameBut_writeText h hn content).isDirectoryAt,
        (sameBut_writeText h' hn content).isDirectoryAt, hs.isDirectoryAt]
    · intro place hpl
      rw [hw, hw', hs.get? hpl]
  · rw [writeText_child_of_not_opens h hn ho,
      writeText_child_of_not_opens h' hn fun ho' => ho (hs.opens_iff.mpr ho')]
    exact ⟨rfl, hs⟩

end Child
end FileTree
end CatalogTypes
