import PearlReport.Proofs.Payloads
import PearlReport.Proofs.Refusal
import PearlReport.Proofs.Session

/-! Output as input. The data of an envelope, given to the command that printed it, is printed
again as it stands: reading and telling together are a projection. -/

namespace PearlReport

open Json

def Report.instants (r : Report) : List Time.Instant :=
  match r.view.data with
  | some p => p.shape.instants p.value
  | none => []

theorem Shape.write_get? {α : Type} {key : String} : (s : Shape α) → s.ignores key = true →
    (a : α) → (s.write a).get? key = none
  | .record _ fields p, h, a => by
    apply lookup_absent
    intro hk
    exact of_decide_eq_true h ((fields.write_keys (p.parts a)).subset hk)
  | .option _, _, none => rfl
  | .option s, h, some a => s.write_get? h a
  | .leaf _, h, _ => nomatch h
  | .word _, h, _ => nomatch h
  | .any, h, _ => nomatch h
  | .list _, h, _ => nomatch h
  | .dict _, h, _ => nomatch h

theorem Query.reader_fits (q : Query) : q.reader.shape.fits 126 = true := by
  cases q <;> decide

theorem Query.report_written (q : Query) (a : q.reader.α)
    (hy : ∀ t ∈ q.reader.shape.instants a, t.FourDigitYear) :
    q.report (q.reader.shape.write a).canonical =
      .ok (q.reader.report (q.reader.shape.truncated a)) := by
  have hplain := q.reader.shape.write_plain q.reader_fits a
  have hparse := (hplain.canonical (by decide)).1
  have hkey := q.reader.shape.write_get? (q.reader_ignores "HttpErrorCode" (by decide)) a
  have hread := q.reader.shape.ofValue_write q.reader_lossless a hy
  rw [Query.report, q.reader.shape.ofResponse_parsed hparse, q.reader.shape.classify_uncoded hkey,
    hread]
  rfl

theorem View.data_of_listing {α : Type} {c : Prop} [Decidable c] {message : String} {s : Shape α}
    {a : α} {p : Payload}
    (h : (if c then View.told message else View.whole s a).data = some p) : p = ⟨s, a⟩ := by
  split at h
  · cases h
  · exact (Option.some.inj h).symm

theorem Query.view_data {q : Query} (hq : q ≠ .bucket) {a : q.reader.α} {p : Payload}
    (h : (q.reader.report a).view.data = some p) :
    p.shape.write p.value = q.reader.shape.write a ∧
      p.shape.instants p.value = q.reader.shape.instants a := by
  cases q with
  | tapes =>
    cases a with
    | none => cases h
    | some l =>
      cases View.data_of_listing h
      exact ⟨rfl, rfl⟩
  | bucket => exact absurd rfl hq
  | service =>
    cases a with
    | none => cases h
    | some l =>
      cases View.data_of_listing h
      exact ⟨rfl, rfl⟩
  | storageDomains | bulkPut =>
    cases View.data_of_listing h
    exact ⟨rfl, rfl⟩
  | objectHead | system | jobs =>
    cases h
    exact ⟨rfl, rfl⟩

theorem View.whole_truncated {α : Type} {s : Shape α} (h : s.Lossless) (a : α) (status : Status) :
    (View.whole s (s.truncated a)).envelope status = (View.whole s a).envelope status := by
  have hw := s.write_truncated h a
  simp only [View.whole, View.envelope, Option.map_some, hw]

theorem View.listing_truncated {α β : Type} {s : Shape α} (h : s.Lossless) (a : α) (bs : List β)
    (f : β → β) (message : String) :
    View.envelope (if (bs.map f).isEmpty then .told message else .whole s (s.truncated a)) .ok =
      View.envelope (if bs.isEmpty then .told message else .whole s a) .ok := by
  rw [List.isEmpty_map]
  split
  · rfl
  · exact View.whole_truncated h a .ok

theorem Query.envelope_truncated (q : Query) (a : q.reader.α) :
    (q.reader.report (q.reader.shape.truncated a)).envelope = (q.reader.report a).envelope := by
  cases q with
  | tapes =>
    cases a with
    | none => rfl
    | some l => exact View.listing_truncated TapeListing.lossless l l.tapes _ _
  | bucket => exact View.listing_truncated Report.bucketShape_lossless a a.objects _ _
  | service =>
    cases a with
    | none => rfl
    | some l => exact View.listing_truncated ServiceListing.lossless l l.buckets _ _
  | objectHead => exact View.whole_truncated ObjectHead.lossless a .ok
  | system => exact View.whole_truncated SystemInfo.lossless a .ok
  | storageDomains =>
    exact View.listing_truncated StorageDomainListing.lossless a a.domains _ _
  | jobs => exact View.whole_truncated JobListing.lossless a .ok
  | bulkPut => exact View.listing_truncated BulkPutReport.lossless a a.ignoredFiles _ _

theorem Query.report_eq_ok {q : Query} {text : String} {r : Report} (h : q.report text = .ok r) :
    ∃ a, r = q.reader.report a := by
  rw [Query.report] at h
  cases ha : q.reader.shape.ofResponse text with
  | error e =>
    rw [ha] at h
    cases h
  | ok a =>
    rw [ha] at h
    cases h
    exact ⟨a, rfl⟩

theorem Query.report_own_data {q : Query} (hq : q ≠ .bucket) {text : String} {r : Report} {d : Value}
    (hr : q.report text = .ok r) (hd : r.envelope.data = some d)
    (hy : ∀ t ∈ r.instants, t.FourDigitYear) :
    ∃ r', q.report d.canonical = .ok r' ∧ r'.envelope = r.envelope := by
  obtain ⟨a, rfl⟩ := Query.report_eq_ok hr
  obtain ⟨p, hp, rfl⟩ := Option.map_eq_some_iff.1 hd
  obtain ⟨hwrite, hinstants⟩ := Query.view_data hq hp
  rw [Report.instants, hp] at hy
  simp only [hinstants] at hy
  rw [hwrite, q.report_written a hy]
  exact ⟨_, rfl, q.envelope_truncated a⟩

theorem Invocation.run_eq_of_envelope {i i' : Invocation} {w w' : World} {r r' : Report}
    (h : (i.session w).outcome = .ok r) (h' : (i'.session w').outcome = .ok r')
    (he : r'.envelope = r.envelope) (hfull : w'.full = w.full) :
    (i'.run w').stdout = (i.run w).stdout ∧ (i'.run w').exit = (i.run w).exit := by
  apply Invocation.run_seen _ hfull
  rw [h, h']
  exact he

/-- A reading command that has printed data reads the canonical text of that data and prints the
same bytes again, wherever its settings and its input come from, in particular from standard input
with all else as it was. A bucket is told under other names than it is read, so it is left out. -/
theorem run_prints_own_output {q : Query} (hq : q ≠ .bucket) {i : Invocation} {w : World}
    {input : String} {r : Report} {d : Value} (hi : i.request = .query q input)
    (hr : (i.session w).outcome = .ok r) (hd : r.envelope.data = some d)
    (hy : ∀ t ∈ r.instants, t.FourDigitYear) :
    (∀ (i' : Invocation) (w' : World) (input' : String), i'.request = .query q input' →
      (∃ s, i'.stored w' = .ok s) → w'.read input' = .ok d.canonical →
      (∃ r', (i'.session w').outcome = .ok r') ∧ (w'.full = w.full →
        (i'.run w').stdout = (i.run w).stdout ∧ (i'.run w').exit = (i.run w).exit)) ∧
    let again : Invocation := { i with request := .query q "-" }
    let fed : World := { w with stdin := d.canonical.toUTF8 }
    (∃ r', (again.session fed).outcome = .ok r') ∧
      (again.run fed).stdout = (i.run w).stdout ∧ (again.run fed).exit = (i.run w).exit := by
  have hfirst := hr
  rw [Invocation.query_outcome hi] at hfirst
  obtain ⟨s, hs, hfirst⟩ := Outcome.bind_eq_ok.1 hfirst
  obtain ⟨text, -, hreport⟩ := Outcome.bind_eq_ok.1 hfirst
  obtain ⟨r', hr', he⟩ := Query.report_own_data hq hreport hd hy
  have hagain : ∀ (i' : Invocation) (w' : World) (input' : String), i'.request = .query q input' →
      (∃ s, i'.stored w' = .ok s) → w'.read input' = .ok d.canonical →
      (i'.session w').outcome = .ok r' := by
    rintro i' w' input' hi' ⟨s', hs'⟩ hread
    rw [Invocation.query_outcome hi', hs', Outcome.ok_bind, hread, Outcome.ok_bind, hr']
  constructor
  · intro i' w' input' hi' hs' hread
    have hout := hagain i' w' input' hi' hs' hread
    exact ⟨⟨r', hout⟩, Invocation.run_eq_of_envelope hr hout he⟩
  · intro again fed
    have hread : fed.read "-" = .ok d.canonical := by
      rw [World.read_stdin, FileTree.decode_toUTF8]
      rfl
    have hout := hagain again fed "-" rfl ⟨s, hs⟩ hread
    exact ⟨⟨r', hout⟩, Invocation.run_eq_of_envelope hr hout he rfl⟩

def oddSystem : String :=
  "\x7b\"SerialNumber\":\"7\",\"Now\":\"2016-02-29t00:30:00.1259+01:00\",\"Extra\":[1.5]," ++
  "\"InstanceId\":\"\x7b00000000-0000-0000-0000-000000000000\x7d\"," ++
  "\"BuildInformation\":[\"main\",\"r1\",\"5.7\"],\"ApiVersion\":\"3\"\x7d"

def oddWorld : World := ⟨FileTree.empty, .sound, oddSystem.toUTF8, ⟨some "home", none, none⟩, false, false⟩

def oddRun : Invocation := ⟨.query .system "-", true, false, none⟩

def oddInfo : SystemInfo :=
  ⟨"3", ⟨"main", "r1", "5.7"⟩, "7", Uuid.nil,
    ⟨1456702200, 125900000, by decide, by decide, by decide⟩⟩

theorem run_prints_own_output_odd :
    (oddRun.session oddWorld).outcome = .ok (.system oddInfo) ∧
    let again : Invocation := { oddRun with request := .query .system "-" }
    let fed : World :=
      { oddWorld with stdin := (SystemInfo.shape.write oddInfo).canonical.toUTF8 }
    (again.run fed).stdout = (oddRun.run oddWorld).stdout ∧
      (again.run fed).exit = (oddRun.run oddWorld).exit := by
  have hr : (oddRun.session oddWorld).outcome = .ok (.system oddInfo) :=
    Outcome.toOption_eq_some.1 (by decide +kernel)
  have hy : ∀ t ∈ (Report.system oddInfo).instants, t.FourDigitYear := by decide +kernel
  exact ⟨hr, (run_prints_own_output (by decide) rfl hr rfl hy).2.2⟩

end PearlReport
