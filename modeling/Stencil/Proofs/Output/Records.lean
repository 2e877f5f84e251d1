import Stencil.Proofs.Output.Steps
import Stencil.Proofs.Output.Writing

namespace Stencil

open Disk

/-- The SHA-256 digest of bytes, in hexadecimal digits. -/
def Sha256.hexDigest (bytes : Text.Bytes) : Text :=
  (Sha256.digest bytes).words.flatMap fun w => Text.hex 8 w.toNat

theorem checksum_eq (content : Text) : checksum content = Sha256.hexDigest (Text.encode content) :=
  rfl

/-- A joined file is called what the new one is called. -/
def Merge.KeepsNames (merge : Merge) : Prop :=
  ∀ source f last output, merge source f last = .ok output → output.filename = f.filename

/-- A disk holds a file where the name in a record leads to, with the digest and the permissions of
the record. A file has twelve bits for its permissions, and takes no others from the numeral. -/
structure Asset.Describes (a : Asset) (root : Path) (d : Disk) : Prop where
  content : ∃ bytes, d.read (root.child a.filename) = .ok bytes ∧ Sha256.hexDigest bytes = a.checksum
  permissions : ∃ n : Int, Text.octal? a.permissions = some n ∧
    d.mode (root.child a.filename) = .ok (n % 0o10000).toNat

variable {d d' : Disk} {m : Location} {root : Path} {merge : Merge} {last : Versions}
  {f output : GeneratedFile} {files : List GeneratedFile} {assets : List Asset} {bytes : Text.Bytes}
  {mode : Nat}

theorem Merge.KeepsNames.filename_eq (keeps : merge.KeepsNames) {p : Path}
    (h : outputFor merge last p f d = .ok (some output)) : output.filename = f.filename := by
  rcases outputFor_eq_ok h with ⟨hnone, -⟩ | ⟨hsame, -⟩ | ⟨-, source, joined, hjoined, hmerge⟩
  · exact absurd hnone (by simp)
  · rw [Option.some.inj hsame]
  · rw [Option.some.inj hjoined]
    exact keeps _ _ _ _ hmerge

theorem octal?_of_permissionBits {t : Text} (h : permissionBits t = .ok mode) :
    ∃ n : Int, Text.octal? t = some n ∧ mode = (n % 0o10000).toNat := by
  unfold permissionBits at h
  split at h
  next => simp at h
  next n hn =>
    split at h
    next => exact ⟨n, hn, (Except.ok.inj h).symm⟩
    next => simp at h

theorem GeneratedFile.describes_asset
    (hfind : d.find (root.child output.filename) = .ok (.file (Text.encode output.content) mode))
    (bits : permissionBits output.permissions = .ok mode) : output.asset.Describes root d := by
  obtain ⟨n, hn, rfl⟩ := octal?_of_permissionBits bits
  refine ⟨⟨Text.encode output.content, ?_, (checksum_eq output.content).symm⟩, n, hn, ?_⟩
  · rw [Disk.read, GeneratedFile.asset, hfind]
    rfl
  · rw [Disk.mode, GeneratedFile.asset, hfind]
    rfl

namespace Writes

variable (keeps : merge.KeepsNames)
include keeps

/-- A file that no record of a writing leads to stays as it is. -/
theorem node?_of_free (h : Writes merge last root d files assets d')
    (hm : d.node? m = some (.file bytes mode))
    (free : ∀ b ∈ assets, d'.locate (root.child b.filename) ≠ .ok m) :
    d'.node? m = some (.file bytes mode) := by
  induction h with
  | nil d => exact hm
  | left _ _ ih => exact ih hm free
  | landed goes _ lands rest ih =>
    have hplace := rest.grows.locate lands.locate
    rw [← keeps.filename_eq goes] at hplace
    have hne : m ≠ _ := fun heq => free _ List.mem_cons_self (heq ▸ hplace)
    exact ih (lands.node?_file hne hm) fun b hb => free b (List.mem_cons_of_mem _ hb)

theorem describes_last (h : Writes merge last root d files assets d') {before after : List Asset}
    {a : Asset} (heq : assets = before ++ a :: after)
    (free : ∀ b ∈ after, d'.locate (root.child b.filename) ≠ d'.locate (root.child a.filename)) :
    a.Describes root d' := by
  induction h generalizing before with
  | nil d => simp at heq
  | left _ _ ih => exact ih heq free
  | landed goes bits lands rest ih =>
    cases before with
    | nil =>
      obtain ⟨rfl, rfl⟩ := List.cons.inj heq
      have hplace := rest.grows.locate lands.locate
      rw [← keeps.filename_eq goes] at hplace
      have hnode := rest.node?_of_free keeps lands.node? fun b hb hb' =>
        free b hb (hb'.trans hplace.symm)
      exact GeneratedFile.describes_asset (find_eq_ok_iff.mpr ⟨_, hplace, hnode⟩) bits
    | cons b before => exact ih (List.cons.inj heq).2 free

end Writes

/-- When files have been written, the last record of each place describes what stands there: also if
several names lead to one place, if files stood there before, or if files were joined, as long as a
joined file keeps its name. -/
theorem writeFiles_describes_last (keeps : merge.KeepsNames)
    (h : (writeFiles merge last root files).run d = (.ok assets, d')) {before after : List Asset}
    {a : Asset} (heq : assets = before ++ a :: after)
    (free : ∀ b ∈ after, d'.locate (root.child b.filename) ≠ d'.locate (root.child a.filename)) :
    a.Describes root d' :=
  (writes_of_run h).describes_last keeps heq free

/-- Puts what stands on disk in front of what is new. -/
def joinContents : Merge := fun source f _ =>
  .ok { f with content := source.content ++ f.content }

theorem keepsNames_joinContents : joinContents.KeepsNames := by
  rintro source f last output h
  cases Except.ok.inj h
  rfl

/-- Two files of one name. -/
def twiceFiles : List GeneratedFile :=
  [⟨"a.txt", "one", .writeAlways, "644"⟩, ⟨"a.txt", "two", .writeAlways, "600"⟩]

def twiceRecords : List Asset :=
  [⟨"a.txt", .writeAlways, "644", checksum "one"⟩, ⟨"a.txt", .writeAlways, "600", checksum "two"⟩]

/-- A file that is joined, in front of the two. -/
def joinedFile : GeneratedFile :=
  ⟨"main.go", "+", .merge, "640"⟩

def joinedRecord : Asset :=
  ⟨"main.go", .merge, "640", checksum "mine+"⟩

/-- The output directory with the second of the two files. -/
def twiceDisk : Disk :=
  outputDisk.put ["out", "a.txt"] (.file (Text.encode "two") 0o600)

def joinedDisk : Disk :=
  twiceDisk.put ["out", "main.go"] (.file (Text.encode "mine+") 0o640)

theorem writeFiles_describes_last_joined :
    (writeFiles joinContents [] ⟨[], ["out"]⟩ (joinedFile :: twiceFiles)).run outputDisk =
        (.ok (joinedRecord :: twiceRecords), joinedDisk) ∧
      joinedRecord.Describes ⟨[], ["out"]⟩ joinedDisk ∧
      ∀ a ∈ twiceRecords.getLast?, a.Describes ⟨[], ["out"]⟩ joinedDisk := by
  have hrun : (writeFiles joinContents [] ⟨[], ["out"]⟩ (joinedFile :: twiceFiles)).run outputDisk =
      (.ok (joinedRecord :: twiceRecords), joinedDisk) := rfl
  refine ⟨hrun, ?_, fun a ha => ?_⟩
  · have hsplit : joinedRecord :: twiceRecords = [] ++ joinedRecord :: twiceRecords := rfl
    exact writeFiles_describes_last keepsNames_joinContents hrun hsplit (by decide +kernel)
  · have hsplit : joinedRecord :: twiceRecords =
        [joinedRecord, ⟨"a.txt", .writeAlways, "644", checksum "one"⟩] ++ a :: [] := by
      rw [← Option.mem_some.mp ha]
      rfl
    exact writeFiles_describes_last keepsNames_joinContents hrun hsplit (by simp)

/-- The first of two records for one name tells of bytes that are gone. -/
theorem writeFiles_stale_record :
    (writeFiles refuseMerge [] ⟨[], ["out"]⟩ twiceFiles).run outputDisk =
        (.ok twiceRecords, twiceDisk) ∧
      ¬ ∀ a ∈ twiceRecords, a.Describes ⟨[], ["out"]⟩ twiceDisk := by
  refine ⟨rfl, fun describes => ?_⟩
  obtain ⟨bytes, hread, hdigest⟩ := (describes _ List.mem_cons_self).content
  dsimp only at hdigest
  have htwo : twiceDisk.read ((⟨[], ["out"]⟩ : Path).child "a.txt") = .ok (Text.encode "two") := by
    decide +kernel
  have hbytes : Text.encode "two" = bytes := Except.ok.inj (htwo.symm.trans hread)
  have hdifferent : Sha256.hexDigest (Text.encode "two") ≠ checksum "one" := by decide +kernel
  subst hbytes
  exact hdifferent hdigest

end Stencil
