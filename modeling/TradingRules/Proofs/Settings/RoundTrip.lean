import TradingRules.Proofs.Document.Written
import TradingRules.Proofs.Json.RoundTrip
import TradingRules.Settings.Document

namespace TradingRules

namespace Decoder

theorem uint64_ofNat (origin : Origin) (n : UInt64) :
    uint64 origin (.ofJson (.ofNat n.toNat)) = .ok n := by
  have hn : n.toNat < UInt64.size := n.toNat_lt
  have hrange : (0 : Int) ≤ n.toNat ∧ (n.toNat : Int) ≤ UInt64.size - 1 := by omega
  have hinteger : integer 0 (UInt64.size - 1) "u64" origin (.ofJson (.ofNat n.toNat)) =
      .ok n.toNat := if_pos hrange
  rw [uint64, hinteger]
  exact congrArg Except.ok (UInt64.ofNat_toNat ..)

theorem uint32_ofNat (origin : Origin) (n : UInt32) :
    uint32 origin (.ofJson (.ofNat n.toNat)) = .ok n := by
  have hn : n.toNat < UInt32.size := n.toNat_lt
  have hrange : (0 : Int) ≤ n.toNat ∧ (n.toNat : Int) ≤ UInt32.size - 1 := by omega
  have hinteger : integer 0 (UInt32.size - 1) "u32" origin (.ofJson (.ofNat n.toNat)) =
      .ok n.toNat := if_pos hrange
  rw [uint32, hinteger]
  exact congrArg Except.ok (UInt32.ofNat_toNat ..)

end Decoder

namespace RemoteSettings

theorem field?_name (i : Field) : record.field? (record.name i) = some i := by
  cases i <;> decide

def fields (s : RemoteSettings) : List (Field × Json) :=
  (.baseUrl, .string s.baseUrl) :: (s.token.toList.map fun t ↦ (.token, .string t)) ++
    [(.timeoutSeconds, .ofNat s.timeoutSeconds.toNat), (.maxRetries, .ofNat s.maxRetries.toNat)]

theorem members_eq_written (s : RemoteSettings) : .object s.members = record.written s.fields := by
  obtain ⟨baseUrl, token, timeoutSeconds, maxRetries⟩ := s
  cases token <;> rfl

theorem nodup_fields (s : RemoteSettings) : (s.fields.map Prod.fst).Nodup := by
  obtain ⟨baseUrl, token, timeoutSeconds, maxRetries⟩ := s
  cases token <;> simp [fields]

theorem decode_members (origin : Origin) (s : RemoteSettings) :
    record.decode origin (.ofJson (.object s.members)) = .ok s := by
  have htimeout := Decoder.uint64_ofNat origin s.timeoutSeconds
  have hretries := Decoder.uint32_ofNat origin s.maxRetries
  have hstring (t : String) : Decoder.string origin (.ofJson (.string t)) = .ok t := rfl
  have htoken (t : String) :
      Decoder.nullable Decoder.string origin (.ofJson (.string t)) = .ok (some t) := rfl
  have hread : record.readAll origin record.start s.fields = .ok s := by
    obtain ⟨baseUrl, token, timeoutSeconds, maxRetries⟩ := s
    cases token <;> simp [fields, Decoder.Record.readAll, show record.read = readField from rfl,
      show record.start = .default from rfl, readField, default, hstring, htoken, htimeout,
      hretries, bind, Except.bind, pure, Except.pure]
  rw [members_eq_written, Decoder.Record.decode_written origin field?_name s.nodup_fields hread]
  rfl

end RemoteSettings

namespace LocalSettings

theorem field?_name (i : Field) : record.field? (record.name i) = some i := by
  cases i <;> decide

def fields (s : LocalSettings) : List (Field × Json) :=
  [(.path, .string s.path), (.owner, .string s.owner)] ++
    s.backup.toList.map fun p ↦ (.backup, .string p)

theorem members_eq_written (s : LocalSettings) : .object s.members = record.written s.fields := by
  obtain ⟨path, owner, backup⟩ := s
  cases backup <;> rfl

theorem nodup_fields (s : LocalSettings) : (s.fields.map Prod.fst).Nodup := by
  obtain ⟨path, owner, backup⟩ := s
  cases backup <;> simp [fields]

theorem decode_members (origin : Origin) (s : LocalSettings) :
    record.decode origin (.ofJson (.object s.members)) = .ok s := by
  have hread : record.readAll origin record.start s.fields = .ok s := by
    obtain ⟨path, owner, backup⟩ := s
    cases backup <;> rfl
  rw [members_eq_written, Decoder.Record.decode_written origin field?_name s.nodup_fields hread]
  rfl

end LocalSettings

namespace Settings

/-- Members that are kept: they are not the one that tells the kind, and hold no lists or
objects. -/
def Kept (ms : List (String × Json)) : Prop :=
  ∀ m ∈ ms, m.1 ≠ "backend" ∧ (Source.ofJson m.2).toJson? = some m.2

theorem splitMembers_kept (kind : Option Kind) (others : List (Option String × Source))
    {ms : List (String × Json)} (hms : Kept ms) :
    splitMembers kind others (Source.ofMembers ms) =
      .ok (kind, others.reverse ++ Source.ofMembers ms) := by
  induction ms generalizing others with
  | nil => simp [Source.ofMembers, splitMembers]
  | cons m ms ih =>
    obtain ⟨⟨hname, hvalue⟩, hms⟩ := List.forall_mem_cons.mp hms
    have hjson : Decoder.json .text (Source.ofJson m.2) = .ok m.2 := by
      rw [Decoder.json, hvalue]
    rw [Source.ofMembers, splitMembers, hjson]
    · refine (ih ((some m.1, Source.ofJson m.2) :: others) hms).trans ?_
      simp
    · exact hname

theorem storeDecoder_members {name : String} {kind : Kind}
    (hname : Kind.names.lookup name = some kind) {ms : List (String × Json)} (hms : Kept ms) :
    storeDecoder .text (.ofJson (.object (("backend", .string name) :: ms))) =
      ofKept kind (.ofJson (.object ms)) := by
  have hkind : kindDecoder .text (.ofJson (.string name)) = .ok kind := by
    simp [kindDecoder, Source.ofJson, Decoder.variantOf, hname]
  have hsplit : splitMembers none [] (Source.ofMembers (("backend", .string name) :: ms)) =
      .ok (some kind, Source.ofMembers ms) := by
    rw [Source.ofMembers, splitMembers, hkind]
    exact splitMembers_kept (some kind) [] hms
  rw [Source.ofJson, storeDecoder, hsplit]
  rfl

theorem kept_remote (r : RemoteSettings) : Kept r.members := by
  obtain ⟨baseUrl, token, timeoutSeconds, maxRetries⟩ := r
  cases token <;> simp [Kept, RemoteSettings.members, Source.ofJson, Source.toJson?, Json.ofNat]

theorem kept_local (l : LocalSettings) : Kept l.members := by
  obtain ⟨path, owner, backup⟩ := l
  cases backup <;> simp [Kept, LocalSettings.members, Source.ofJson, Source.toJson?]

theorem field?_name (i : Field) : record.field? (record.name i) = some i := by
  cases i
  decide

theorem decoder_of_store {v : Json} {s : Settings} (h : storeDecoder .text (.ofJson v) = .ok s) :
    decoder .text (.ofJson (.object [("store", v)])) = .ok s := by
  have hread : record.readAll .text record.start [(.store, v)] = .ok s :=
    bind_eq_ok_iff.mpr ⟨s, h, rfl⟩
  exact Decoder.Record.decode_written .text field?_name (by simp) hread

theorem decoder_toJson (s : Settings) : decoder .text (.ofJson s.toJson) = .ok s := by
  cases s with
  | remote r =>
    refine decoder_of_store ((storeDecoder_members rfl (kept_remote r)).trans ?_)
    exact congrArg (Settings.remote <$> ·) (r.decode_members .value)
  | localTable l =>
    refine decoder_of_store ((storeDecoder_members rfl (kept_local l)).trans ?_)
    exact congrArg (Settings.localTable <$> ·) (l.decode_members .value)

theorem legible_toJson (s : Settings) : s.toJson.Legible 127 := by
  cases s with
  | remote r =>
    have htimeout := Number.legible_ofNat r.timeoutSeconds.toNat_lt
    have hretries := Number.legible_ofNat (Nat.lt_trans r.maxRetries.toNat_lt (by decide))
    obtain ⟨baseUrl, token, timeoutSeconds, maxRetries⟩ := r
    cases token <;> simp [toJson, RemoteSettings.members, Json.Within, Json.WithinMembers,
      Json.ofNat, htimeout, hretries]
  | localTable l =>
    obtain ⟨path, owner, backup⟩ := l
    cases backup <;> simp [toJson, LocalSettings.members, Json.Within, Json.WithinMembers]

theorem ofText_toJson (s : Settings) : decoder.ofText s.toJson.compact = .ok s := by
  have hread := Json.readText_compact s.legible_toJson
  simp only [Decoder.ofText, hread, decoder_toJson]
  rfl

end Settings

end TradingRules
