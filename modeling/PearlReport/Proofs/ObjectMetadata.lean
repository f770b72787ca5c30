import PearlReport.Proofs.DirectReading
import PearlReport.Proofs.Payloads
import PearlReport.Proofs.Refusal

/-! The metadata of an object from its text to what is printed. Keys may come again in the text, and
may be the names of the members around them; each is told once, where it came first, with the values
that it came with last. -/

namespace PearlReport

open Json

namespace Json

theorem gather_keys {α : Type} (ms : List (String × α)) :
    (gather ms).map Prod.fst = (ms.map Prod.fst).eraseDups := by
  -- from the last member backwards, as gathering takes them
  induction ms using List.reverseRecOn with
  | nil => rfl
  | append_singleton ms m ih =>
    have hput : gather (ms ++ [m]) = putMember (gather ms) m.1 m.2 := by
      rw [gather, List.foldl_append]
      rfl
    have hkeys : (ms ++ [m]).map Prod.fst = ms.map Prod.fst ++ [m.1] := by simp
    rw [hput, keys_putMember, ih, hkeys, List.eraseDups_append]
    simp only [List.mem_eraseDups]
    split
    case isTrue h => simp [List.removeAll, h]
    case isFalse h => simp [List.removeAll, h, List.eraseDups_cons]

theorem gatheredMembers_eq (ms : List (String × Value)) :
    Value.gatheredMembers ms = ms.map fun m => (m.1, m.2.gathered) := by
  induction ms with
  | nil => rfl
  | cons m ms ih => rw [Value.gatheredMembers, ih, List.map_cons]

theorem gathered_lookup (ms : List (String × Value)) (key : String) :
    (gather (Value.gatheredMembers ms)).lookup key =
      (ms.reverse.lookup key).map Value.gathered := by
  rw [gather_lookup, gatheredMembers_eq, ← List.map_reverse, lookup_map_values]

theorem gathered_keys (ms : List (String × Value)) :
    (gather (Value.gatheredMembers ms)).map Prod.fst = (ms.map Prod.fst).eraseDups := by
  rw [gather_keys, gatheredMembers_eq, List.map_map]
  rfl

end Json

theorem Vocabulary.ofValue_eq_ok {α : Type} {w : Vocabulary α} {v : Value} {a : α} :
    w.ofValue v = .ok a ↔
      ∃ word, (v = .str word ∨ v = .obj [(word, .null)]) ∧ w.find word = .ok a := by
  constructor
  · intro h
    rw [Vocabulary.ofValue.eq_def] at h
    split at h
    case h_1 word => exact ⟨word, .inl rfl, h⟩
    case h_2 word inner =>
      obtain ⟨b, hb, h⟩ := Outcome.bind_eq_ok.1 h
      obtain ⟨⟨⟩, hnull, h⟩ := Outcome.bind_eq_ok.1 h
      cases h
      have hinner : inner = .null := by
        by_contra hne
        rw [← Outcome.toOption_eq_some, Leaf.nothing_read hne] at hnull
        cases hnull
      exact ⟨word, .inr (by rw [hinner]), hb⟩
    · cases h
    · cases h
  · rintro ⟨word, rfl | rfl, h⟩
    · exact h
    · rw [Vocabulary.ofValue, h]
      rfl

theorem ObjectStatus.find_eq_ok {word : String} {s : ObjectStatus} (h : vocabulary.find word = .ok s) :
    s.name = if word ∈ ["NEAR_LINE", "ON_TAPE", "IN_PROGRESS", "DOESNT_EXIST"] then word
      else "UNKNOWN" := by
  by_cases hword : word ∈ ["NEAR_LINE", "ON_TAPE", "IN_PROGRESS", "DOESNT_EXIST"]
  · rw [if_pos hword]
    simp only [List.mem_cons, List.not_mem_nil, or_false] at hword
    rcases hword with rfl | rfl | rfl | rfl <;> cases h <;> rfl
  · rw [if_neg hword]
    by_cases hunknown : word = "UNKNOWN"
    · subst hunknown
      cases h
      rfl
    · have hnames : word ∉ vocabulary.names := by
        change word ∉ ["NEAR_LINE", "ON_TAPE", "IN_PROGRESS", "DOESNT_EXIST", "UNKNOWN"]
        simp_all
      have hother := Vocabulary.find_unlisted hnames
      rw [h] at hother
      cases hother
      rfl

def Json.Value.Texts (v : Value) : Prop := ∃ texts : List String, v = .arr (texts.map .str)

theorem Json.Value.Texts.gathered_eq {v : Value} (h : v.Texts) : v.gathered = v := by
  obtain ⟨texts, rfl⟩ := h
  apply Value.gathered_of_distinct
  rw [Value.Distinct, Value.distinctItems_iff]
  intro u hu
  obtain ⟨t, -, rfl⟩ := List.mem_map.1 hu
  trivial

theorem Metadata.exists_written {ms : List (String × Value)} (hk : (ms.map Prod.fst).Nodup)
    (h : ∀ m ∈ ms, m.2.Texts) : ∃ d : Metadata, Metadata.shape.write d = .obj ms := by
  have hentries : ∃ es : List (String × List String),
      es.map (fun e => (e.1, Value.arr (e.2.map .str))) = ms := by
    clear hk
    induction ms with
    | nil => exact ⟨[], rfl⟩
    | cons m ms ih =>
      rw [List.forall_mem_cons] at h
      obtain ⟨texts, ht⟩ := h.1
      obtain ⟨es, rfl⟩ := ih h.2
      exact ⟨(m.1, texts) :: es, by rw [List.map_cons, ← ht]⟩
  obtain ⟨es, rfl⟩ := hentries
  rw [List.map_map] at hk
  exact ⟨⟨es, hk⟩, rfl⟩

theorem Metadata.exists_read {entries : List (String × Value)}
    (h : ∀ key ∈ entries.map Prod.fst, ∃ v, entries.reverse.lookup key = some v ∧ v.Texts) :
    ∃ (d : Metadata) (shown : List (String × Value)),
      (Value.obj entries).gathered = .obj shown ∧ Metadata.shape.write d = .obj shown ∧
      shown.map Prod.fst = (entries.map Prod.fst).eraseDups ∧
      ∀ key, shown.lookup key = entries.reverse.lookup key := by
  have hkeys := gathered_keys entries
  have hlookup : ∀ key, (gather (Value.gatheredMembers entries)).lookup key =
      entries.reverse.lookup key := by
    intro key
    rw [gathered_lookup]
    by_cases hkey : key ∈ entries.map Prod.fst
    · obtain ⟨v, hv, ht⟩ := h key hkey
      rw [hv, Option.map_some, ht.gathered_eq]
    · rw [lookup_absent (by rwa [List.map_reverse, List.mem_reverse])]
      rfl
  have htexts : ∀ m ∈ gather (Value.gatheredMembers entries), m.2.Texts := by
    intro m hm
    have hmem : m.1 ∈ (gather (Value.gatheredMembers entries)).map Prod.fst :=
      List.mem_map_of_mem hm
    rw [hkeys, List.mem_eraseDups] at hmem
    obtain ⟨v, hv, ht⟩ := h m.1 hmem
    rw [← hlookup, lookup_mem (nodup_gather _) hm] at hv
    cases hv
    exact ht
  obtain ⟨d, hd⟩ := exists_written (nodup_gather _) htexts
  exact ⟨d, _, rfl, hd, hkeys, hlookup⟩

theorem Metadata.ofValue_write (d : Metadata) :
    Metadata.shape.ofValue (Metadata.shape.write d) = .ok d := by
  have hnone : Metadata.shape.instants d = [] := by
    simp [Metadata.shape, Shape.instants, Shape.text, Leaf.instants]
  have hsame : Metadata.shape.truncated d = d := by
    apply Shape.truncated_whole
    simp [hnone]
  rw [Shape.ofValue_write _ Metadata.lossless d (by simp [hnone]), hsame]

theorem ObjectHead.ofValue_obj {ms : List (String × Value)} (hk : (ms.map Prod.fst).Nodup)
    {d : Metadata} {s : ObjectStatus} {u : Value}
    (hm : ms.lookup "Metadata" = some (Metadata.shape.write d))
    (hs : ms.lookup "Status" = some u) (hu : ObjectStatus.shape.ofValue u = .ok s) :
    ObjectHead.shape.ofValue (.obj ms) = .ok ⟨d, s⟩ := by
  have hfields : ObjectHead.fields.lookups ms = some (d, s, ()) := by
    simp [ObjectHead.fields, Fields.lookups, Field.lookup, Field.defaulted, Field.required, hm, hs, hu,
      Metadata.ofValue_write]
  rw [← Outcome.toOption_eq_some, ObjectHead.shape, Shape.ofValue_record _ _ _ (by decide) hk, hfields]
  rfl

theorem Query.report_objectHead {text : String} {ms : List (String × Value)} {d : Metadata}
    {s : ObjectStatus} {u : Value} (hv : Value.parse text = .ok (.obj ms))
    (hcode : ms.lookup "HttpErrorCode" = none)
    (hm : ms.lookup "Metadata" = some (Metadata.shape.write d))
    (hs : ms.lookup "Status" = some u) (hu : ObjectStatus.shape.ofValue u = .ok s) :
    Query.objectHead.report text = .ok (.objectHead ⟨d, s⟩) := by
  have hread := ObjectHead.ofValue_obj (Value.parse_distinct hv).1 hm hs hu
  have hget : (Value.obj ms).get? "HttpErrorCode" = none := hcode
  have hclass : ObjectHead.shape.ofResponse text = .ok ⟨d, s⟩ := by
    rw [Shape.ofResponse_parsed _ hv, Shape.classify_uncoded _ hget, hread]
    rfl
  rw [Query.report, Query.reader, hclass]
  rfl

theorem Report.objectHead_envelope (h : ObjectHead) :
    (Report.objectHead h).envelope = ⟨.ok, none, some (.obj
      [("Metadata", Metadata.shape.write h.metadata), ("Status", .str h.status.name)])⟩ := rfl

/-- The metadata of an object come from its text to what is printed with every key once, where it came
first, and all of its last values in their order, whatever the keys are named. They stand before the
status, which has its name or is unknown, and there is nothing else. -/
theorem object_metadata_told {text : String} {v u : Value} {ms entries : List (String × Value)}
    {status : ObjectStatus} (hv : Value.parse text = .ok v)
    (hc : content? text.toList = some (.obj ms)) (hcode : "HttpErrorCode" ∉ ms.map Prod.fst)
    (hs : ms.reverse.lookup "Status" = some u)
    (hu : ObjectStatus.shape.ofValue u.gathered = .ok status)
    (hm : ms.reverse.lookup "Metadata" = some (.obj entries))
    (hlast : ∀ key ∈ entries.map Prod.fst, ∃ v, entries.reverse.lookup key = some v ∧ v.Texts) :
    ∃ (r : Report) (shown : List (String × Value)) (word : String),
      shown.map Prod.fst = (entries.map Prod.fst).eraseDups ∧
      (∀ key, shown.lookup key = entries.reverse.lookup key) ∧
      (u.gathered = .str word ∨ u.gathered = .obj [(word, .null)]) ∧
      status.name = (if word ∈ ["NEAR_LINE", "ON_TAPE", "IN_PROGRESS", "DOESNT_EXIST"] then word
        else "UNKNOWN") ∧
      r.envelope.data = some (.obj [("Metadata", .obj shown), ("Status", .str status.name)]) ∧
      ∀ (i : Invocation) (w : World) (input : String), i.request = .query .objectHead input →
        w.read input = .ok text →
        (∀ directory settings, (w.execute directory settings i.request).outcome = .ok r) ∧
        ((∃ s, i.stored w = .ok s) → w.full = false →
          (i.run w).exit = 0 ∧ (i.run w).stdout = r.text ++ "\n" ∧
          Value.parse r.text = .ok (.obj [("status", .str "OK"), ("data",
            .obj [("Metadata", .obj shown), ("Status", .str status.name)])])) := by
  obtain ⟨w, hw, -, rfl⟩ := Value.parse_eq_ok.1 hv
  cases hc.symm.trans hw
  obtain ⟨d, shown, hentries, hd, hkeys, hlookup⟩ := Metadata.exists_read hlast
  obtain ⟨word, hword, hfind⟩ := Vocabulary.ofValue_eq_ok.1 hu
  have hreport : Query.objectHead.report text = .ok (.objectHead ⟨d, status⟩) := by
    apply Query.report_objectHead hv (u := u.gathered) _ _ _ hu
    · rw [gathered_lookup, lookup_absent (by rwa [List.map_reverse, List.mem_reverse])]
      rfl
    · rw [gathered_lookup, hm, Option.map_some, hentries, hd]
    · rw [gathered_lookup, hs, Option.map_some]
  have henvelope := Report.objectHead_envelope ⟨d, status⟩
  rw [hd] at henvelope
  refine ⟨.objectHead ⟨d, status⟩, shown, word, hkeys, hlookup, hword,
    ObjectStatus.find_eq_ok hfind, by rw [henvelope], ?_⟩
  intro i w input hi ht
  constructor
  · intro directory settings
    rw [hi, w.execute_query directory settings .objectHead ht, hreport]
  · rintro ⟨s, hstored⟩ hfull
    obtain ⟨out, hout, hstdout, hexit⟩ := Invocation.run_report hi hstored ht hreport hfull
    obtain rfl : (Report.objectHead ⟨d, status⟩).text = out := by
      rw [Report.serialize_eq] at hout
      exact Except.ok.inj hout
    have hparse := Report.parse_text (.objectHead ⟨d, status⟩)
    rw [henvelope] at hparse
    exact ⟨hexit, hstdout, hparse⟩

def repeatingText : String :=
  "\x7b\"Status\":\x7b\"NO_SUCH\":null\x7d,\"Metadata\":1,\"Metadata\":\x7b\"Status\":[\"a\"]," ++
  "\"k\":7,\"Metadata\":[],\"HttpErrorCode\":[\"x\",\"y\"],\"k\":[\"\\n\",\"last\"]," ++
  "\"Status\":[\"b\"]\x7d,\"Extra\":[]\x7d"

def repeatingEntries : List (String × Value) :=
  [("Status", .arr [.str "a"]), ("k", .ofInt 7), ("Metadata", .arr []),
    ("HttpErrorCode", .arr [.str "x", .str "y"]), ("k", .arr [.str "\n", .str "last"]),
    ("Status", .arr [.str "b"])]

def repeatingMembers : List (String × Value) :=
  [("Status", .obj [("NO_SUCH", .null)]), ("Metadata", .ofInt 1),
    ("Metadata", .obj repeatingEntries), ("Extra", .arr [])]

def repeatingWorld : World :=
  ⟨FileTree.empty, .sound, repeatingText.toUTF8, ⟨some "home", none, none⟩, false, false⟩

def repeatingRun : Invocation := ⟨.query .objectHead "-", false, false, none⟩

theorem repeatingText_parse : content? repeatingText.toList = some (.obj repeatingMembers) ∧
    Value.parse repeatingText = .ok (Value.obj repeatingMembers).gathered := by
  have hc : content? repeatingText.toList = some (.obj repeatingMembers) := by cbv
  exact ⟨hc, Value.parse_eq_ok.2 ⟨_, hc, by decide, rfl⟩⟩

theorem repeatingEntries_texts : ∀ key ∈ repeatingEntries.map Prod.fst,
    ∃ v, repeatingEntries.reverse.lookup key = some v ∧ v.Texts := by
  intro key hkey
  change key ∈ ["Status", "k", "Metadata", "HttpErrorCode", "k", "Status"] at hkey
  simp only [List.mem_cons, List.not_mem_nil, or_false] at hkey
  rcases hkey with rfl | rfl | rfl | rfl | rfl | rfl
  · exact ⟨_, rfl, ["b"], rfl⟩
  · exact ⟨_, rfl, ["\n", "last"], rfl⟩
  · exact ⟨_, rfl, [], rfl⟩
  · exact ⟨_, rfl, ["x", "y"], rfl⟩
  · exact ⟨_, rfl, ["\n", "last"], rfl⟩
  · exact ⟨_, rfl, ["b"], rfl⟩

theorem object_metadata_told_repeating :
    ∃ (out : String) (shown : List (String × Value)),
      (repeatingRun.run repeatingWorld).exit = 0 ∧
      (repeatingRun.run repeatingWorld).stdout = out ++ "\n" ∧
      Value.parse out = .ok (.obj [("status", .str "OK"), ("data",
        .obj [("Metadata", .obj shown), ("Status", .str "UNKNOWN")])]) ∧
      shown.map Prod.fst = ["Status", "k", "Metadata", "HttpErrorCode"] ∧
      shown.lookup "k" = some (.arr [.str "\n", .str "last"]) := by
  obtain ⟨hc, hv⟩ := repeatingText_parse
  have hinput : repeatingWorld.read "-" = .ok repeatingText := by
    rw [World.read_stdin, repeatingWorld, FileTree.decode_toUTF8]
    rfl
  have hu : ObjectStatus.shape.ofValue (Value.obj [("NO_SUCH", .null)]).gathered = .ok .unknown := rfl
  obtain ⟨r, shown, -, hkeys, hlookup, -, -, -, hrun⟩ :=
    object_metadata_told hv hc (by decide) rfl hu rfl repeatingEntries_texts
  obtain ⟨hexit, hstdout, hparse⟩ :=
    (hrun repeatingRun repeatingWorld "-" rfl hinput).2 ⟨_, rfl⟩ rfl
  exact ⟨r.text, shown, hexit, hstdout, hparse, hkeys, hlookup "k"⟩

end PearlReport
