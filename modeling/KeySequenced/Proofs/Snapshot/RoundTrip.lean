import KeySequenced.Proofs.Snapshot.Frames
import KeySequenced.Proofs.Volume.Files
import Mathlib.Data.List.TakeWhile

/-!
# Saved snapshots are read back

A record within the limits of the wire form always has a frame.  Saving succeeds
when the temporary file and the target can be written and all records are within
those limits.  The target then holds exactly the bytes of the snapshot, and
loading them gives the snapshot again.
-/

set_option autoImplicit false

namespace KeySequenced.Snapshot

/-! ## Writing -/

section Writing

variable {record : Record}

/-- What the first record outside the limits of the wire form is refused for. -/
def oversize? (snapshot : Snapshot) : Option Refusal :=
  snapshot.records.findSome? Record.oversize?

/-- The header and the frames of the records before the first one outside the limits. -/
def draft (snapshot : Snapshot) : Bytes :=
  header snapshot.records.length snapshot.nextRba
    ++ frames (snapshot.records.takeWhile fun record => record.oversize?.isNone)

theorem oversize?_eq_none_iff (snapshot : Snapshot) :
    snapshot.oversize? = none ↔ ∀ record ∈ snapshot.records, record.oversize? = none :=
  List.findSome?_eq_none_iff

theorem draft_eq_encode (snapshot : Snapshot) (within : snapshot.oversize? = none) :
    snapshot.draft = snapshot.encode := by
  have whole : snapshot.records.takeWhile (fun record => record.oversize?.isNone)
      = snapshot.records := by
    rw [List.takeWhile_eq_self_iff]
    intro record member
    rw [(oversize?_eq_none_iff snapshot).mp within record member, Option.isNone_none]
  rw [draft, whole, encode]

theorem frame?_of_within (within : record.oversize? = none) :
    frame? record = .ok (frame record.encode) := by
  have fits : record.encode.length < UInt32.size := by
    rw [Record.length_encode]
    exact encodedLength_lt within
  simp only [frame?, Record.encode?, within, if_pos fits]

theorem frame?_of_oversize {refusal : Refusal} (beyond : record.oversize? = some refusal) :
    frame? record = .error refusal := by
  simp only [frame?, Record.encode?, beyond]

theorem writeFrames_eq (records : List Record) :
    writeFrames records = (frames (records.takeWhile fun record => record.oversize?.isNone),
      records.findSome? Record.oversize?) := by
  induction records with
  | nil => rfl
  | cons record rest ih =>
    cases limit : record.oversize? with
    | some refusal =>
      simp only [writeFrames, frame?_of_oversize limit, List.takeWhile_cons, List.findSome?_cons,
        limit, Option.isNone_some, Bool.false_eq_true, if_false]
      rfl
    | none =>
      simp only [writeFrames, frame?_of_within limit, ih, List.takeWhile_cons, List.findSome?_cons,
        limit, Option.isNone_none, if_true, frames_cons]

/-- Nothing but the limits of the wire form ends the writing of a snapshot. -/
theorem write_eq (snapshot : Snapshot) : snapshot.write = (snapshot.draft, snapshot.oversize?) := by
  simp only [write, writeFrames_eq, draft, oversize?]

end Writing

/-! ## Saving -/

section Saving

variable {snapshot other : Snapshot} {path : String} {volume : Volume} {size : Nat}

/-- The volume after saving: the temporary file has come and gone, and the target is new. -/
def placed (snapshot : Snapshot) (volume : Volume) (draft goal : Place) : Volume :=
  ((volume.put draft (.file snapshot.encode)).remove draft).put goal (.file snapshot.encode)

theorem save_eq_ok_iff (snapshot : Snapshot) (path : String) (volume after : Volume) (size : Nat) :
    snapshot.save path volume = (.ok size, after) ↔
      snapshot.oversize? = none ∧ size = snapshot.encode.length ∧
        ∃ draft goal, volume.Target (Path.temporary path) draft ∧ volume.Target path goal ∧
          after = snapshot.placed volume draft goal := by
  have drafted {draft : Place} (target : volume.Target (Path.temporary path) draft)
      (content : Bytes) : volume.SameDirectories (volume.put draft (.file content)) :=
    Volume.sameDirectories_put target.free content
  have stands {draft : Place} (target : volume.Target (Path.temporary path) draft)
      (content : Bytes) :
      (volume.put draft (.file content)).node? draft = some (.file content) := by
    rw [Volume.node?_put _ _ _ _ (Volume.ne_nil_of_free target.free), if_pos rfl]
  simp only [save, write_eq]
  constructor
  · intro success
    cases written : volume.write (Path.temporary path) snapshot.draft with
    | error obstacle =>
      rw [written] at success
      cases success
    | ok beside =>
      rw [written] at success
      obtain ⟨draft, target, rfl⟩ := (Volume.write_eq_ok_iff _ _ _ _).mp written
      cases within : snapshot.oversize? with
      | some refusal =>
        rw [within] at success
        cases success
      | none =>
        rw [within] at success
        have whole := snapshot.draft_eq_encode within
        simp only [whole] at success
        cases moved : (volume.put draft (.file snapshot.encode)).rename (Path.temporary path)
            path with
        | error obstacle =>
          rw [moved] at success
          cases success
        | ok saved =>
          rw [moved] at success
          cases success
          obtain ⟨goal, free, rfl⟩ := (Volume.rename_eq_ok_iff
            (target.of_sameDirectories (drafted target _)) (stands target _) _).mp moved
          exact ⟨rfl, rfl, draft, goal, target, free.of_sameDirectories (drafted target _).symm,
            rfl⟩
  · rintro ⟨within, rfl, draft, goal, target, free, rfl⟩
    have written : volume.write (Path.temporary path) snapshot.encode
        = .ok (volume.put draft (.file snapshot.encode)) :=
      (Volume.write_eq_ok_iff _ _ _ _).mpr ⟨draft, target, rfl⟩
    have moved : (volume.put draft (.file snapshot.encode)).rename (Path.temporary path) path
        = .ok (snapshot.placed volume draft goal) :=
      (Volume.rename_eq_ok_iff (target.of_sameDirectories (drafted target _)) (stands target _)
        _).mpr ⟨goal, free.of_sameDirectories (drafted target _), rfl⟩
    rw [snapshot.draft_eq_encode within]
    simp only [written, within, moved]

theorem sameDirectories_placed {draft goal : Place} (snapshot : Snapshot)
    (target : volume.Target (Path.temporary path) draft) (free : volume.Target path goal) :
    volume.SameDirectories (snapshot.placed volume draft goal) := by
  have drafted := Volume.sameDirectories_put target.free snapshot.encode
  have removed := drafted.trans
    (Volume.sameDirectories_remove fun directory => target.free ((drafted _).mpr directory))
  exact removed.trans
    (Volume.sameDirectories_put (fun directory => free.free ((removed _).mpr directory)) _)

theorem node?_placed {draft goal : Place} (snapshot : Snapshot)
    (target : volume.Target (Path.temporary path) draft) (free : volume.Target path goal)
    (place : Place) :
    (snapshot.placed volume draft goal).node? place =
      if place = goal then some (.file snapshot.encode)
      else if place = draft then none else volume.node? place := by
  rw [placed, Volume.node?_put _ _ _ _ (Volume.ne_nil_of_free free.free),
    Volume.node?_remove _ _ _ (Volume.ne_nil_of_free target.free),
    Volume.node?_put _ _ _ _ (Volume.ne_nil_of_free target.free)]
  repeat' split
  all_goals rfl

/-- Where a snapshot that has been saved was drafted and put. -/
theorem exists_placed_of_save (success : (snapshot.save path volume).1 = .ok size) :
    snapshot.oversize? = none ∧
      ∃ draft goal, volume.Target (Path.temporary path) draft ∧ volume.Target path goal ∧
        (snapshot.save path volume).2 = snapshot.placed volume draft goal := by
  have whole : snapshot.save path volume = (.ok size, (snapshot.save path volume).2) :=
    Prod.ext success rfl
  obtain ⟨within, _, places⟩ := (save_eq_ok_iff _ _ _ _ _).mp whole
  exact ⟨within, places⟩

/-- A save that fails leaves at most a draft. -/
theorem eq_or_drafted_of_save {fault : Fault}
    (failed : (snapshot.save path volume).1 = .error fault) :
    (snapshot.save path volume).2 = volume ∨
      ∃ draft, volume.Target (Path.temporary path) draft ∧
        (snapshot.save path volume).2 = volume.put draft (.file snapshot.draft) := by
  simp only [save, write_eq] at failed ⊢
  cases written : volume.write (Path.temporary path) snapshot.draft with
  | error obstacle => exact .inl rfl
  | ok drafted =>
    obtain ⟨draft, target, rfl⟩ := (Volume.write_eq_ok_iff _ _ _ _).mp written
    refine .inr ⟨draft, target, ?_⟩
    rw [written] at failed
    simp only at failed ⊢
    split
    · rfl
    · rename_i within
      rw [within] at failed
      simp only at failed
      split
      · rfl
      · rename_i saved moved
        rw [moved] at failed
        cases failed

/-- Saving leaves the directories. -/
theorem sameDirectories_save (snapshot : Snapshot) (path : String) (volume : Volume) :
    volume.SameDirectories (snapshot.save path volume).2 := by
  cases result : (snapshot.save path volume).1 with
  | ok size =>
    obtain ⟨_, draft, goal, target, free, after⟩ := exists_placed_of_save result
    exact after ▸ sameDirectories_placed snapshot target free
  | error fault =>
    rcases eq_or_drafted_of_save result with same | ⟨draft, target, after⟩
    · rw [same]
      exact fun _ => Iff.rfl
    · exact after ▸ Volume.sameDirectories_put target.free _

/-- Saving leaves every place but those of the draft and the target, and if it fails the target
too. -/
theorem node?_save {place : Place} (undrafted : volume.resolve (Path.temporary path) ≠ .ok place)
    (kept : volume.resolve path ≠ .ok place ∨
      ∃ fault, (snapshot.save path volume).1 = .error fault) :
    (snapshot.save path volume).2.node? place = volume.node? place := by
  have aside {draft : Place} (target : volume.Target (Path.temporary path) draft) :
      place ≠ draft := by
    rintro rfl
    exact undrafted target.resolve_eq
  cases result : (snapshot.save path volume).1 with
  | ok size =>
    have elsewhere := kept.resolve_right (by simp [result])
    obtain ⟨_, draft, goal, target, free, after⟩ := exists_placed_of_save result
    have differ : place ≠ goal := by
      rintro rfl
      exact elsewhere free.resolve_eq
    rw [after, node?_placed snapshot target free, if_neg differ, if_neg (aside target)]
  | error fault =>
    rcases eq_or_drafted_of_save result with same | ⟨draft, target, after⟩
    · rw [same]
    · rw [after, Volume.node?_put _ _ _ _ (Volume.ne_nil_of_free target.free),
        if_neg (aside target)]

theorem read_of_save (success : (snapshot.save path volume).1 = .ok size) :
    (snapshot.save path volume).2.read path = .ok snapshot.encode := by
  obtain ⟨_, draft, goal, target, free, after⟩ := exists_placed_of_save success
  rw [after]
  apply (free.of_sameDirectories (sameDirectories_placed snapshot target free)).read_eq
  rw [placed, Volume.node?_put _ _ _ _ (Volume.ne_nil_of_free free.free), if_pos rfl]

/-- A path under which something has been saved takes every snapshot within the limits. -/
theorem save_of_save (success : (snapshot.save path volume).1 = .ok size)
    (within : other.oversize? = none) :
    (other.save path (snapshot.save path volume).2).1 = .ok other.encode.length := by
  obtain ⟨_, draft, goal, target, free, after⟩ := exists_placed_of_save success
  have same := sameDirectories_placed snapshot target free
  rw [after]
  exact congrArg Prod.fst ((save_eq_ok_iff _ _ _ _ _).mpr ⟨within, rfl, draft, goal,
    target.of_sameDirectories same, free.of_sameDirectories same, rfl⟩)

end Saving

/-! ## Loading -/

theorem decode_encode (path : String) (snapshot : Snapshot)
    (writable : ∀ record ∈ snapshot.records, record.Writable)
    (few : snapshot.records.length < UInt64.size) : decode path snapshot.encode = .ok snapshot :=
  (decode_eq_ok_iff _ _ _).mpr
    ⟨writable, few, LittleEndian.encode 8 0, LittleEndian.length_encode .., rfl⟩

theorem load_of_read {path : String} {volume : Volume} {content : Bytes}
    (readable : volume.read path = .ok content) : load path volume = decode path content := by
  unfold load
  rw [readable]

/-! ## The next address in a file -/

/-- Two snapshots of the same records differ in the eight bytes of the next address. -/
theorem encode_of_records_eq {snapshot other : Snapshot}
    (same : snapshot.records = other.records) :
    snapshot.encode.take 16 = other.encode.take 16 ∧
      snapshot.encode.drop 24 = other.encode.drop 24 := by
  have form (snapshot : Snapshot) : snapshot.encode
      = magic ++ LittleEndian.encode 4 version ++ LittleEndian.encode 8 snapshot.records.length
        ++ LittleEndian.encode 8 snapshot.nextRba.toNat
        ++ (LittleEndian.encode 8 0 ++ frames snapshot.records) := by
    simp only [encode, header, List.append_assoc]
  have front (snapshot : Snapshot) : (magic ++ LittleEndian.encode 4 version
      ++ LittleEndian.encode 8 snapshot.records.length).length = 16 := by
    simp [magic]
  have through (snapshot : Snapshot) : (magic ++ LittleEndian.encode 4 version
      ++ LittleEndian.encode 8 snapshot.records.length
      ++ LittleEndian.encode 8 snapshot.nextRba.toNat).length = 24 := by
    simp [magic]
  refine ⟨?_, ?_⟩
  · rw [form, form, List.append_assoc, List.append_assoc _ _ (LittleEndian.encode 8 0 ++ _),
      List.take_left' (front _), List.take_left' (front _), same]
  · rw [form, form, List.drop_left' (through _), List.drop_left' (through _), same]

end KeySequenced.Snapshot
