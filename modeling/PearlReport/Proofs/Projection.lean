import Mathlib.Data.List.Forall2
import PearlReport.Proofs.OneEnvelope
import PearlReport.Proofs.Payloads

/-! What every report is told as. The data of its envelope shows the whole payload, and a message
stands for a listing only where there is nothing in it. -/

namespace PearlReport

open Json

def Leaf.Shows {α : Type} : Leaf α → α → Value → Prop
  | .text, s, v => v = .str s
  | .flag, b, v => v = .bool b
  | .whole w, a, v => v = .num (.int (w.toInt a))
  | .uuid, u, v => v = .str (String.ofList u.text)
  | .instant, t, v => v = .str t.text
  | .character, c, v => v = .str (String.ofList [c])
  | .nothing, _, v => v = .null

mutual
/-- Every element of a list is shown in its place, every entry of a dictionary under its key, every
field of a record under its name in the order of declaration, and nothing else is. -/
def Shape.Shows {α : Type} : Shape α → α → Value → Prop
  | .leaf l, a, v => l.Shows a v
  | .word w, a, v => v = .str (w.nameOf a)
  | .any, u, v => v = u
  | .option s, a, v =>
    match a with
    | none => v = .null
    | some a => s.Shows a v
  | .list s, as, v => ∃ vs, v = .arr vs ∧ List.Forall₂ s.Shows as vs
  | .dict s, d, v =>
    ∃ ms, v = .obj ms ∧ List.Forall₂ (fun m n => n.1 = m.1 ∧ s.Shows m.2 n.2) d.entries ms
  | .record _ fields p, a, v => ∃ ms, v = .obj ms ∧ fields.Shows (p.parts a) ms
def Fields.Shows {β σ : Type} : Fields β σ → β → List (String × Value) → Prop
  | .nil, _, ms => ms = []
  | .cons f s more, (a, b), ms =>
    ∃ v rest, ms = (f.key, v) :: rest ∧ s.Shows a v ∧ more.Shows b rest
end

theorem Leaf.shows_iff {α : Type} (l : Leaf α) (a : α) (v : Value) :
    l.Shows a v ↔ v = l.write a := by
  cases l with
  | text | flag | whole | uuid | instant | character | nothing => exact .rfl

theorem forall₂_iff_eq_map {α β : Type} {R : α → β → Prop} {f : α → β}
    (h : ∀ a b, R a b ↔ b = f a) (as : List α) (bs : List β) :
    List.Forall₂ R as bs ↔ bs = as.map f := by
  have hR : R = fun a b => f a = b := by
    funext a b
    exact propext ((h a b).trans eq_comm)
  rw [hR, ← List.forall₂_map_left_iff, List.forall₂_eq_eq_eq, eq_comm]

mutual
theorem Shape.shows_iff {α : Type} : (s : Shape α) → s.Lossless → (a : α) → (v : Value) →
    (s.Shows a v ↔ v = s.write a)
  | .leaf l, _, a, v => l.shows_iff a v
  | .word _, _, _, _ => .rfl
  | .any, _, _, _ => .rfl
  | .option s, _, none, _ => .rfl
  | .option s, h, some a, v => s.shows_iff h.2 a v
  | .list s, h, as, v => by
    simp only [Shape.Shows, forall₂_iff_eq_map (s.shows_iff h), exists_eq_right, Shape.write]
  | .dict s, h, d, v => by
    have hm : ∀ m n : String × _, n.1 = m.1 ∧ s.Shows m.2 n.2 ↔ n = (m.1, s.write m.2) := by
      intro m n
      rw [s.shows_iff h m.2 n.2, Prod.ext_iff]
    simp only [Shape.Shows, forall₂_iff_eq_map hm, exists_eq_right, Shape.write]
  | .record name fields p, h, a, v => by
    simp only [Shape.Shows, fields.shows_iff h.2, exists_eq_right, Shape.write]
theorem Fields.shows_iff {β σ : Type} : (fields : Fields β σ) → fields.Lossless → (b : β) →
    (ms : List (String × Value)) → (fields.Shows b ms ↔ ms = fields.write b)
  | .nil, _, _, _ => .rfl
  | .cons f s more, h, (a, b), ms => by
    simp only [Fields.Shows, s.shows_iff h.2.1, more.shows_iff h.2.2]
    rw [Fields.write, h.1, if_neg Bool.false_ne_true]
    constructor
    · rintro ⟨v, rest, rfl, rfl, rfl⟩
      rfl
    · rintro rfl
      exact ⟨_, _, rfl, rfl, rfl⟩
end

/-- The message and the data of a report. -/
inductive Report.Told : Report → Option String → Option Value → Prop where
  | noTapeListing : Told (.tapes none) (some "You do not have any tapes") none
  | noTapes {l : TapeListing} (h : l.tapes = []) :
      Told (.tapes (some l)) (some "You do not have any tapes") none
  | tapes {l : TapeListing} {d : Value} (h : l.tapes ≠ []) (hd : TapeListing.shape.Shows l d) :
      Told (.tapes (some l)) none (some d)
  | noObjects {l : BucketListing} (h : l.objects = []) :
      Told (.bucket l) (some ("No objects were reported in the bucket '" ++ l.name ++ "'")) none
  | bucket {l : BucketListing} {d : Value} (h : l.objects ≠ [])
      (hd : Report.bucketShape.Shows l d) : Told (.bucket l) none (some d)
  | noServiceListing : Told (.service none) (some "You do not have any buckets") none
  | noBuckets {l : ServiceListing} (h : l.buckets = []) :
      Told (.service (some l)) (some "You do not have any buckets") none
  | service {l : ServiceListing} {d : Value} (h : l.buckets ≠ [])
      (hd : ServiceListing.shape.Shows l d) : Told (.service (some l)) none (some d)
  | objectHead {o : ObjectHead} {d : Value} (hd : ObjectHead.shape.Shows o d) :
      Told (.objectHead o) none (some d)
  | system {i : SystemInfo} {d : Value} (hd : SystemInfo.shape.Shows i d) :
      Told (.system i) none (some d)
  | noDomains {l : StorageDomainListing} (h : l.domains = []) :
      Told (.storageDomains l) (some "No Storage Domains returned") none
  | storageDomains {l : StorageDomainListing} {d : Value} (h : l.domains ≠ [])
      (hd : StorageDomainListing.shape.Shows l d) : Told (.storageDomains l) none (some d)
  | jobs {l : JobListing} {d : Value} (hd : JobListing.shape.Shows l d) :
      Told (.jobs l) none (some d)
  | noIgnoredFiles {r : BulkPutReport} (h : r.ignoredFiles = []) :
      Told (.bulkPut r) (some r.statusMessage) none
  | bulkPut {r : BulkPutReport} {d : Value} (h : r.ignoredFiles ≠ [])
      (hd : BulkPutReport.shape.Shows r d) : Told (.bulkPut r) none (some d)
  | settings {s : Settings} {change : Option String} {d : Value}
      (hd : Settings.shape.Shows s d) : Told (.settings s change) change (some d)
  | status {message : String} : Told (.status message) (some message) none

theorem Shape.shows_write {α : Type} {s : Shape α} (h : s.Lossless) (a : α) :
    s.Shows a (s.write a) :=
  (s.shows_iff h a _).2 rfl

theorem Shape.Shows.eq_write {α : Type} {s : Shape α} {a : α} {v : Value} (h : s.Shows a v)
    (hs : s.Lossless) : v = s.write a :=
  (s.shows_iff hs a v).1 h

theorem Report.told_envelope (r : Report) : r.Told r.envelope.message r.envelope.data := by
  cases r with
  | tapes l =>
    cases l with
    | none => exact .noTapeListing
    | some l =>
      rw [envelope, view]
      split
      case isTrue h => exact .noTapes (List.isEmpty_iff.1 h)
      case isFalse h =>
        exact .tapes (mt List.isEmpty_iff.2 h) (Shape.shows_write TapeListing.lossless l)
  | bucket l =>
    rw [envelope, view]
    split
    case isTrue h => exact .noObjects (List.isEmpty_iff.1 h)
    case isFalse h =>
      exact .bucket (mt List.isEmpty_iff.2 h) (Shape.shows_write bucketShape_lossless l)
  | service l =>
    cases l with
    | none => exact .noServiceListing
    | some l =>
      rw [envelope, view]
      split
      case isTrue h => exact .noBuckets (List.isEmpty_iff.1 h)
      case isFalse h =>
        exact .service (mt List.isEmpty_iff.2 h) (Shape.shows_write ServiceListing.lossless l)
  | objectHead o => exact .objectHead (Shape.shows_write ObjectHead.lossless o)
  | system i => exact .system (Shape.shows_write SystemInfo.lossless i)
  | storageDomains l =>
    rw [envelope, view]
    split
    case isTrue h => exact .noDomains (List.isEmpty_iff.1 h)
    case isFalse h =>
      have hd := Shape.shows_write StorageDomainListing.lossless l
      exact .storageDomains (mt List.isEmpty_iff.2 h) hd
  | jobs l => exact .jobs (Shape.shows_write JobListing.lossless l)
  | bulkPut r =>
    rw [envelope, view]
    split
    case isTrue h => exact .noIgnoredFiles (List.isEmpty_iff.1 h)
    case isFalse h =>
      exact .bulkPut (mt List.isEmpty_iff.2 h) (Shape.shows_write BulkPutReport.lossless r)
  | settings s change => exact .settings (Shape.shows_write Settings.lossless s)
  | status message => exact .status

theorem Report.Told.notNull {r : Report} {message : Option String} {d : Value}
    (h : r.Told message (some d)) : d.notNull = true := by
  cases h with
  | tapes _ hd | bucket _ hd | service _ hd | storageDomains _ hd | bulkPut _ hd | objectHead hd
  | system hd | jobs hd | settings hd =>
    obtain ⟨ms, rfl, -⟩ := hd
    rfl

theorem Report.Told.eq_envelope {r : Report} {message : Option String} {data : Option Value}
    (h : r.Told message data) : message = r.envelope.message ∧ data = r.envelope.data := by
  rw [envelope]
  cases h with
  | noTapeListing | noServiceListing | status => exact ⟨rfl, rfl⟩
  | noTapes h | noObjects h | noBuckets h | noDomains h | noIgnoredFiles h =>
    simp [view, h, View.told, View.envelope]
  | tapes h hd =>
    simp [view, h, View.whole, View.envelope, hd.eq_write TapeListing.lossless]
  | bucket h hd =>
    simp [view, h, View.whole, View.envelope, hd.eq_write Report.bucketShape_lossless]
  | service h hd =>
    simp [view, h, View.whole, View.envelope, hd.eq_write ServiceListing.lossless]
  | storageDomains h hd =>
    simp [view, h, View.whole, View.envelope, hd.eq_write StorageDomainListing.lossless]
  | bulkPut h hd =>
    simp [view, h, View.whole, View.envelope, hd.eq_write BulkPutReport.lossless]
  | objectHead hd => exact ⟨rfl, congrArg some (hd.eq_write ObjectHead.lossless)⟩
  | system hd => exact ⟨rfl, congrArg some (hd.eq_write SystemInfo.lossless)⟩
  | jobs hd => exact ⟨rfl, congrArg some (hd.eq_write JobListing.lossless)⟩
  | settings hd => exact ⟨rfl, congrArg some (hd.eq_write Settings.lossless)⟩

theorem Report.told_iff (r : Report) (message : Option String) (data : Option Value) :
    r.Told message data ↔ message = r.envelope.message ∧ data = r.envelope.data := by
  constructor
  · exact Told.eq_envelope
  · rintro ⟨rfl, rfl⟩
    exact r.told_envelope

/-- Every report is written, whoever listens, as one object with the status `OK`, and with the message
and the data of that report and no others, in this order. -/
theorem Report.serialize_told (r : Report) :
    ∃ (ms : List (String × Value)) (e : Envelope Value),
      r.serialize.outcome = .ok (Value.obj ms).canonical ∧
      Value.parse (Value.obj ms).canonical = .ok (.obj ms) ∧
      (Envelope.shape .any).parse (Value.obj ms).canonical = .ok e ∧
      e.status = .ok ∧ (∀ message data, r.Told message data ↔ message = e.message ∧ data = e.data) ∧
      (ms.map Prod.fst).Sublist ["status", "message", "data"] ∧
      ms.lookup "status" = some (.str "OK") ∧ ms.lookup "message" = e.message.map .str ∧
      ms.lookup "data" = e.data ∧
      ∀ log : Log, (log.noteAll r.serialize.notes).lines = log.lines ++
        if log.verbose then
          ["Rendering " ++ r.kind ++ " result",
            "Rendered " ++ toString (Value.obj ms).canonical.utf8ByteSize ++ " bytes"]
        else [] := by
  have hplain : ∀ d ∈ r.envelope.data, d.Plain 126 := View.envelope_plain r.view_fits .ok
  obtain ⟨htext, hparse, hread⟩ := Envelope.text_reads hplain
  have hsettled : r.envelope.settled = r.envelope := by
    apply Envelope.settled_eq
    intro d hd
    exact (show r.Told r.envelope.message (some d) from hd ▸ r.told_envelope).notNull
  obtain ⟨hs, hm, hd⟩ := r.envelope.members_lookup
  rw [htext] at hparse hread
  rw [hsettled] at hread
  have hserialize : r.serialize.outcome = .ok (Value.obj r.envelope.members).canonical := by
    rw [Report.serialize_eq, Report.render, Report.text, htext]
  refine ⟨r.envelope.members, r.envelope, hserialize, hparse, hread, rfl, r.told_iff,
    r.envelope.members_keys, hs, hm, hd, ?_⟩
  intro log
  rw [log.noteAll_lines, Report.serialize_eq, Report.render, Report.text, htext]

end PearlReport
