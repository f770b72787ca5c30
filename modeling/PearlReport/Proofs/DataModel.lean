import PearlReport.Proofs.Envelope
import PearlReport.Proofs.Payloads

/-! The data model as a whole. A value of any of its types is written without fail and read again,
from the text or from the document in it, as itself but for the parts of milliseconds of its
instants. -/

namespace PearlReport

open Json

structure Kind where
  {α : Type}
  shape : Shape α

def dataModel : List Kind :=
  [⟨TapeState.shape⟩, ⟨Tape.shape⟩, ⟨TapeListing.shape⟩, ⟨.option TapeListing.shape⟩,
    ⟨Owner.shape⟩, ⟨ObjectEntry.shape⟩, ⟨BucketListing.shape⟩, ⟨BucketEntry.shape⟩,
    ⟨ServiceListing.shape⟩, ⟨.option ServiceListing.shape⟩, ⟨ObjectStatus.shape⟩,
    ⟨Metadata.shape⟩, ⟨ObjectHead.shape⟩, ⟨BuildInfo.shape⟩, ⟨SystemInfo.shape⟩,
    ⟨StorageDomain.shape⟩, ⟨StorageDomainListing.shape⟩, ⟨JobRequest.shape⟩, ⟨JobStatus.shape⟩,
    ⟨Job.shape⟩, ⟨JobListing.shape⟩, ⟨IgnoredFile.shape⟩, ⟨BulkPutReport.shape⟩,
    ⟨BackendFault.shape⟩, ⟨TapeFailure.shape⟩, ⟨Settings.shape⟩, ⟨Status.shape⟩]

theorem dataModel_lossless : ∀ k ∈ dataModel, k.shape.Lossless := by
  simp only [dataModel, List.forall_mem_cons]
  exact ⟨TapeState.lossless, Tape.lossless, TapeListing.lossless, ⟨rfl, TapeListing.lossless⟩,
    Owner.lossless, ObjectEntry.lossless, BucketListing.lossless, BucketEntry.lossless,
    ServiceListing.lossless, ⟨rfl, ServiceListing.lossless⟩, ObjectStatus.lossless,
    Metadata.lossless, ObjectHead.lossless, BuildInfo.lossless, SystemInfo.lossless,
    StorageDomain.lossless, StorageDomainListing.lossless, JobRequest.lossless,
    JobStatus.lossless, Job.lossless, JobListing.lossless, IgnoredFile.lossless,
    BulkPutReport.lossless, BackendFault.lossless, TapeFailure.lossless, Settings.lossless,
    Status.lossless, nofun⟩

theorem dataModel_fits : ∀ k ∈ dataModel, k.shape.fits maxLevels = true := by
  simp only [dataModel, List.forall_mem_cons]
  decide

/-- A value of any type of the data model whose instants have years of four digits is written, and
read again as it was, from the text and from its document alike, but that its instants have lost their
parts of milliseconds; what is read is written as the same text. -/
theorem dataModel_round_trip {k : Kind} (hk : k ∈ dataModel) (a : k.α)
    (hy : ∀ t ∈ k.shape.instants a, t.FourDigitYear) :
    ∃ (text : String) (v : Value),
      k.shape.serializeText a = .ok text ∧ Value.parse text = .ok v ∧
      k.shape.parse text = .ok (k.shape.truncated a) ∧
      k.shape.ofValue v = .ok (k.shape.truncated a) ∧
      k.shape.serializeText (k.shape.truncated a) = .ok text ∧
      k.shape.instants (k.shape.truncated a) =
        (k.shape.instants a).map Time.Instant.truncated ∧
      ((∀ t ∈ k.shape.instants a, t.truncated = t) → k.shape.truncated a = a) := by
  have hl := dataModel_lossless k hk
  obtain ⟨hparse, hread⟩ := Shape.parse_canonical hl (dataModel_fits k hk) a hy
  have hagain : k.shape.canonical (k.shape.truncated a) = k.shape.canonical a := by
    rw [Shape.canonical, k.shape.write_truncated hl, Shape.canonical]
  refine ⟨k.shape.canonical a, k.shape.write a, k.shape.serializeText_eq a, hparse, hread,
    k.shape.ofValue_write hl a hy, ?_, k.shape.instants_truncated a, k.shape.truncated_whole a⟩
  rw [k.shape.serializeText_eq, hagain]

def fullTape : Tape where
  id := ⟨List.replicate 32 ⟨15, by decide⟩, rfl⟩
  barCode := some "\"\r\n\x1f"
  state := .unknown
  type := ""
  partitionId := some .nil
  storageDomainId := none
  availableRawCapacity := some 0
  totalRawCapacity := some 18446744073709551615
  assignedToStorageDomain := true
  writeProtected := false
  fullOfData := true
  lastAccessed := none
  lastModified := some ⟨1483228799, 1999999999, by decide, by decide, by decide⟩
  lastVerified := some ⟨-62167219200, 1, by decide, by decide, by decide⟩

def trimmedTape : Tape :=
  { fullTape with
    lastModified := some ⟨1483228799, 1999000000, by decide, by decide, by decide⟩
    lastVerified := some ⟨-62167219200, 0, by decide, by decide, by decide⟩ }

theorem dataModel_round_trip_fullTape :
    (∀ t ∈ Tape.shape.instants fullTape, t.FourDigitYear) ∧
    ∃ text, Tape.shape.serializeText fullTape = .ok text ∧
      Tape.shape.parse text = .ok trimmedTape ∧
      Tape.shape.serializeText trimmedTape = .ok text := by
  have hy : ∀ t ∈ Tape.shape.instants fullTape, t.FourDigitYear := by decide +kernel
  have hk : ⟨Tape.shape⟩ ∈ dataModel := .tail _ (.head _)
  obtain ⟨text, v, htext, -, hparse, -, hagain, -⟩ := dataModel_round_trip hk fullTape hy
  exact ⟨hy, text, htext, hparse, hagain⟩

end PearlReport
