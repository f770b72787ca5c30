import PearlReport.Proofs.RoundTrip

/-! Every payload has a shape that loses nothing: its words are told apart, its fields too, and none
of them is hidden. -/

namespace PearlReport

attribute [local simp] Shape.Lossless Fields.Lossless Shape.nullable Leaf.nullable Field.required
  Field.defaulted Shape.text Shape.flag Shape.size Shape.uuid Shape.instant

theorem TapeState.lossless : TapeState.shape.Lossless := by
  intro s
  cases s <;> rfl

theorem ObjectStatus.lossless : ObjectStatus.shape.Lossless := by
  intro s
  cases s <;> rfl

theorem JobRequest.lossless : JobRequest.shape.Lossless := by
  intro r
  cases r <;> rfl

theorem JobStatus.lossless : JobStatus.shape.Lossless := by
  intro s
  cases s <;> rfl

theorem Status.lossless : Status.shape.Lossless := by
  intro s
  cases s <;> rfl

theorem Tape.lossless : Tape.shape.Lossless := by
  refine ⟨by decide, ?_⟩
  simp [Tape.fields, TapeState.lossless]

theorem TapeListing.lossless : TapeListing.shape.Lossless := by
  refine ⟨by decide, ?_⟩
  simp [TapeListing.fields, Tape.lossless]

theorem Owner.lossless : Owner.shape.Lossless := by
  refine ⟨by decide, ?_⟩
  simp [Owner.fields]

theorem ObjectEntry.lossless : ObjectEntry.shape.Lossless := by
  refine ⟨by decide, ?_⟩
  simp [ObjectEntry.fields, Owner.lossless]
  rfl

theorem BucketListing.lossless : BucketListing.shape.Lossless := by
  refine ⟨by decide, ?_⟩
  simp [BucketListing.fields, ObjectEntry.lossless]

theorem Report.bucketShape_lossless : Report.bucketShape.Lossless := by
  refine ⟨by decide, ?_⟩
  simp [Report.bucketFields, ObjectEntry.lossless]

theorem BucketEntry.lossless : BucketEntry.shape.Lossless := by
  refine ⟨by decide, ?_⟩
  simp [BucketEntry.fields]

theorem ServiceListing.lossless : ServiceListing.shape.Lossless := by
  refine ⟨by decide, ?_⟩
  simp [ServiceListing.fields, Owner.lossless, BucketEntry.lossless]
  rfl

theorem Metadata.lossless : Metadata.shape.Lossless := by
  simp [Metadata.shape]

theorem ObjectHead.lossless : ObjectHead.shape.Lossless := by
  refine ⟨by decide, ?_⟩
  simp [ObjectHead.fields, Metadata.lossless, ObjectStatus.lossless]

theorem BuildInfo.lossless : BuildInfo.shape.Lossless := by
  refine ⟨by decide, ?_⟩
  simp [BuildInfo.fields]

theorem SystemInfo.lossless : SystemInfo.shape.Lossless := by
  refine ⟨by decide, ?_⟩
  simp [SystemInfo.fields, BuildInfo.lossless]

theorem StorageDomain.lossless : StorageDomain.shape.Lossless := by
  refine ⟨by decide, ?_⟩
  simp [StorageDomain.fields]

theorem StorageDomainListing.lossless : StorageDomainListing.shape.Lossless := by
  refine ⟨by decide, ?_⟩
  simp [StorageDomainListing.fields, StorageDomain.lossless]

theorem Job.lossless : Job.shape.Lossless := by
  refine ⟨by decide, ?_⟩
  simp [Job.fields, JobRequest.lossless, JobStatus.lossless]

theorem JobListing.lossless : JobListing.shape.Lossless := by
  refine ⟨by decide, ?_⟩
  simp [JobListing.fields, Job.lossless]

theorem IgnoredFile.lossless : IgnoredFile.shape.Lossless := by
  refine ⟨by decide, ?_⟩
  simp [IgnoredFile.fields]

theorem BulkPutReport.lossless : BulkPutReport.shape.Lossless := by
  refine ⟨by decide, ?_⟩
  simp [BulkPutReport.fields, IgnoredFile.lossless]

theorem BackendFault.lossless : BackendFault.shape.Lossless := by
  refine ⟨by decide, ?_⟩
  simp [BackendFault.fields]

theorem TapeFailure.lossless : TapeFailure.shape.Lossless := by
  refine ⟨by decide, ?_⟩
  simp [TapeFailure.fields]

theorem Settings.lossless : Settings.shape.Lossless := by
  refine ⟨by decide, ?_⟩
  simp [Settings.fields]

theorem Query.reader_lossless (q : Query) : q.reader.shape.Lossless := by
  cases q with
  | tapes => exact ⟨rfl, TapeListing.lossless⟩
  | bucket => exact BucketListing.lossless
  | service => exact ⟨rfl, ServiceListing.lossless⟩
  | objectHead => exact ObjectHead.lossless
  | system => exact SystemInfo.lossless
  | storageDomains => exact StorageDomainListing.lossless
  | jobs => exact JobListing.lossless
  | bulkPut => exact BulkPutReport.lossless

end PearlReport
