import Matchmaking.Allocation.Document
import Matchmaking.Proofs.Json.Labels
import Matchmaking.Proofs.Json.Record

/-!
# Which objects are allocation documents

An object is read as an allocation document, or a part of one, by what its members tell; most of
them may be left out.
-/

namespace Matchmaking.Allocation

open Json Json.Reader

variable {o : ObjectText}

theorem State.reader_decides : State.reader.Decides := choice_decides State.ofName

theorem State.reads_iff {v : List UInt8} {state : State} (value : IsValue v) :
    State.reader.Reads v state ↔ ∃ name, Names v name ∧ State.ofName name = state :=
  reads_choice_iff value

theorem State.ofName_eq_allocated_iff {name : String} :
    State.ofName name = .allocated ↔ name = "Allocated" := by
  unfold ofName
  constructor
  · intro h
    split at h
    · assumption
    · split at h
      · cases h
      · split at h <;> cases h
  · rintro rfl
    exact if_pos rfl

namespace ServerPort

/-- What the members of an object tell of a port. -/
@[mk_iff] structure Told (ms : List Member) (p : ServerPort) : Prop where
  name : TellsOr ms "name" Reader.text "" p.name
  port : Tells ms "port" Reader.int32 p.port

theorem fields_decides : fields.Decides := ⟨text_decides, int32_decides, trivial⟩

theorem fields_distinct : fields.names.Nodup := by decide

private def make : Values [String, Int32] → ServerPort
  | (name, port, ()) => { name, port }

private def parts (p : ServerPort) : Values [String, Int32] := (p.name, p.port, ())

theorem reader_decides : reader.Decides :=
  (record_decides fields_decides fields_distinct).map make

theorem reads_iff {p : ServerPort} : reader.Reads o.bytes p ↔ Told o.members p := by
  have hassigns : reader.Reads o.bytes p ↔ fields.Assigns o.members (parts p) :=
    reads_made_iff make parts fields_decides fields_distinct (fun _ => rfl) fun _ => rfl
  rw [hassigns, told_iff]
  exact and_congr (assigns_defaulted_iff text_decides o.values) <|
    (and_iff_left trivial).trans (assigns_required_iff int32_decides o.values)

end ServerPort

namespace Metadata

@[mk_iff] structure Told (ms : List Member) (m : Metadata) : Prop where
  labels : TellsOr ms "labels" Labels.reader .empty m.labels
  annotations : TellsOr ms "annotations" Labels.reader .empty m.annotations

theorem fields_decides : fields.Decides :=
  ⟨Labels.reader_decides, Labels.reader_decides, trivial⟩

theorem fields_distinct : fields.names.Nodup := by decide

private def make : Values [Labels, Labels] → Metadata
  | (labels, annotations, ()) => { labels, annotations }

private def parts (m : Metadata) : Values [Labels, Labels] := (m.labels, m.annotations, ())

theorem reader_decides : reader.Decides :=
  (record_decides fields_decides fields_distinct).map make

theorem reads_iff {m : Metadata} : reader.Reads o.bytes m ↔ Told o.members m := by
  have hassigns : reader.Reads o.bytes m ↔ fields.Assigns o.members (parts m) :=
    reads_made_iff make parts fields_decides fields_distinct (fun _ => rfl) fun _ => rfl
  rw [hassigns, told_iff]
  exact and_congr (assigns_defaulted_iff Labels.reader_decides o.values) <|
    (and_iff_left trivial).trans (assigns_defaulted_iff Labels.reader_decides o.values)

end Metadata

namespace Status

@[mk_iff] structure Told (ms : List Member) (s : Status) : Prop where
  state : MayTell ms "state" State.reader s.state
  server : TellsOr ms "gameServerName" Reader.text "" s.server
  address : TellsOr ms "address" Reader.text "" s.address
  ports : TellsOr ms "ports" (Reader.list ServerPort.reader) [] s.ports
  metadata : TellsOr ms "metadata" Metadata.reader .empty s.metadata

theorem fields_decides : fields.Decides :=
  ⟨State.reader_decides.optional, text_decides, text_decides, ServerPort.reader_decides.list,
    Metadata.reader_decides, trivial⟩

theorem fields_distinct : fields.names.Nodup := by decide

private def make : Values [Option State, String, String, List ServerPort, Metadata] → Status
  | (state, server, address, ports, metadata, ()) => { state, server, address, ports, metadata }

private def parts (s : Status) :
    Values [Option State, String, String, List ServerPort, Metadata] :=
  (s.state, s.server, s.address, s.ports, s.metadata, ())

theorem reader_decides : reader.Decides :=
  (record_decides fields_decides fields_distinct).map make

theorem reads_iff {s : Status} : reader.Reads o.bytes s ↔ Told o.members s := by
  have hassigns : reader.Reads o.bytes s ↔ fields.Assigns o.members (parts s) :=
    reads_made_iff make parts fields_decides fields_distinct (fun _ => rfl) fun _ => rfl
  rw [hassigns, told_iff]
  exact and_congr (assigns_optional_iff State.reader_decides o.values) <|
    and_congr (assigns_defaulted_iff text_decides o.values) <|
    and_congr (assigns_defaulted_iff text_decides o.values) <|
    and_congr (assigns_defaulted_iff ServerPort.reader_decides.list o.values) <|
    (and_iff_left trivial).trans (assigns_defaulted_iff Metadata.reader_decides o.values)

end Status

/-! ## What was wanted -/

namespace PlayerRange

@[mk_iff] structure Told (ms : List Member) (p : PlayerRange) : Prop where
  least : Tells ms "minAvailable" Reader.int64 p.least
  most : Tells ms "maxAvailable" Reader.int64 p.most

theorem fields_decides : fields.Decides := ⟨int64_decides, int64_decides, trivial⟩

theorem fields_distinct : fields.names.Nodup := by decide

private def make : Values [Int64, Int64] → PlayerRange
  | (least, most, ()) => { least, most }

private def parts (p : PlayerRange) : Values [Int64, Int64] := (p.least, p.most, ())

theorem reader_decides : reader.Decides :=
  (record_decides fields_decides fields_distinct).map make

theorem reads_iff {p : PlayerRange} : reader.Reads o.bytes p ↔ Told o.members p := by
  have hassigns : reader.Reads o.bytes p ↔ fields.Assigns o.members (parts p) :=
    reads_made_iff make parts fields_decides fields_distinct (fun _ => rfl) fun _ => rfl
  rw [hassigns, told_iff]
  exact and_congr (assigns_required_iff int64_decides o.values) <|
    (and_iff_left trivial).trans (assigns_required_iff int64_decides o.values)

end PlayerRange

namespace Selector

@[mk_iff] structure Told (ms : List Member) (s : Selector) : Prop where
  labels : Tells ms "matchLabels" Labels.reader s.labels
  serverState : Tells ms "gameServerState" Reader.text s.serverState
  players : Tells ms "players" PlayerRange.reader s.players

theorem fields_decides : fields.Decides :=
  ⟨Labels.reader_decides, text_decides, PlayerRange.reader_decides, trivial⟩

theorem fields_distinct : fields.names.Nodup := by decide

private def make : Values [Labels, String, PlayerRange] → Selector
  | (labels, serverState, players, ()) => { labels, serverState, players }

private def parts (s : Selector) : Values [Labels, String, PlayerRange] :=
  (s.labels, s.serverState, s.players, ())

theorem reader_decides : reader.Decides :=
  (record_decides fields_decides fields_distinct).map make

theorem reads_iff {s : Selector} : reader.Reads o.bytes s ↔ Told o.members s := by
  have hassigns : reader.Reads o.bytes s ↔ fields.Assigns o.members (parts s) :=
    reads_made_iff make parts fields_decides fields_distinct (fun _ => rfl) fun _ => rfl
  rw [hassigns, told_iff]
  exact and_congr (assigns_required_iff Labels.reader_decides o.values) <|
    and_congr (assigns_required_iff text_decides o.values) <|
    (and_iff_left trivial).trans (assigns_required_iff PlayerRange.reader_decides o.values)

end Selector

namespace Spec

@[mk_iff] structure Told (ms : List Member) (s : Spec) : Prop where
  selectors : Tells ms "selectors" (Reader.list Selector.reader) s.selectors
  metadata : Tells ms "metadata" Metadata.reader s.metadata

theorem fields_decides : fields.Decides :=
  ⟨Selector.reader_decides.list, Metadata.reader_decides, trivial⟩

theorem fields_distinct : fields.names.Nodup := by decide

private def make : Values [List Selector, Metadata] → Spec
  | (selectors, metadata, ()) => { selectors, metadata }

private def parts (s : Spec) : Values [List Selector, Metadata] := (s.selectors, s.metadata, ())

theorem reader_decides : reader.Decides :=
  (record_decides fields_decides fields_distinct).map make

theorem reads_iff {s : Spec} : reader.Reads o.bytes s ↔ Told o.members s := by
  have hassigns : reader.Reads o.bytes s ↔ fields.Assigns o.members (parts s) :=
    reads_made_iff make parts fields_decides fields_distinct (fun _ => rfl) fun _ => rfl
  rw [hassigns, told_iff]
  exact and_congr (assigns_required_iff Selector.reader_decides.list o.values) <|
    (and_iff_left trivial).trans (assigns_required_iff Metadata.reader_decides o.values)

end Spec

/-! ## The document -/

namespace Document

@[mk_iff] structure Told (ms : List Member) (d : Document) : Prop where
  apiVersion : TellsOr ms "apiVersion" Reader.text "" d.apiVersion
  kind : TellsOr ms "kind" Reader.text "" d.kind
  spec : MayTell ms "spec" Spec.reader d.spec
  status : MayTell ms "status" Status.reader d.status

theorem fields_decides : fields.Decides :=
  ⟨text_decides, text_decides, Spec.reader_decides.optional, Status.reader_decides.optional,
    trivial⟩

theorem fields_distinct : fields.names.Nodup := by decide

private def make : Values [String, String, Option Spec, Option Status] → Document
  | (apiVersion, kind, spec, status, ()) => { apiVersion, kind, spec, status }

private def parts (d : Document) : Values [String, String, Option Spec, Option Status] :=
  (d.apiVersion, d.kind, d.spec, d.status, ())

theorem reader_decides : reader.Decides :=
  (record_decides fields_decides fields_distinct).map make

theorem reads_iff {d : Document} : reader.Reads o.bytes d ↔ Told o.members d := by
  have hassigns : reader.Reads o.bytes d ↔ fields.Assigns o.members (parts d) :=
    reads_made_iff make parts fields_decides fields_distinct (fun _ => rfl) fun _ => rfl
  rw [hassigns, told_iff]
  exact and_congr (assigns_defaulted_iff text_decides o.values) <|
    and_congr (assigns_defaulted_iff text_decides o.values) <|
    and_congr (assigns_optional_iff Spec.reader_decides o.values) <|
    (and_iff_left trivial).trans (assigns_optional_iff Status.reader_decides o.values)

end Document

end Matchmaking.Allocation
