import Breadboard.Proofs.FileReadBack
import Breadboard.Proofs.JsonText
import Breadboard.Proofs.OpcodeFormat
import Breadboard.Settings.ConfigFile
import Mathlib.Logic.Relation

/-!
# A configuration over its defaults

A configuration file says what differs from the defaults. So a file may be written in many ways:
a field that holds its default can be left out or not, fields may come in any order, others that
nobody knows may stand between them, and the same is true within each section. The ways are the
iterates of single *rewritings*, and which fields are known and what their defaults are is told by
the saved form of the default configuration.

A reader need not be looked at as a whole. It *tolerates* rewriting if it reads the default as what
stands for an absent field, and whatever it reads it still reads after one rewriting. A reader of
numbers or texts does, because there is nothing in them to rewrite; a reader of a record does if
those of its fields do. The configuration is a record of two records and some texts.

What is read of the file is checked as a whole, so a flaw is found whether its value was written or
is a default.
-/

namespace Breadboard

namespace Json

/-! ## Rewriting over defaults -/

/-- **One rewriting** of a record, over the record of the defaults. -/
inductive Rewritten : Json → Json → Json → Prop where
  /-- The fields in another order. -/
  | reordered {defaults fields fields' : Record} (h : fields.Perm fields') :
    Rewritten (record defaults) (record fields) (record fields')
  /-- One more field of any value, under a name that is not known. -/
  | added {defaults fields : Record} {key : String} {value : Json}
    (h : key ∉ defaults.map (·.1)) :
    Rewritten (record defaults) (record fields) (record ((key, value) :: fields))
  /-- A field left out that holds its default. -/
  | omitted {defaults fields : Record} {key : String} {value : Json}
    (h : (key, value) ∈ defaults) :
    Rewritten (record defaults) (record ((key, value) :: fields)) (record fields)
  /-- A field rewritten, over its own default. -/
  | within {defaults fields : Record} {key : String} {inner v v' : Json}
    (h : (key, inner) ∈ defaults) (hv : Rewritten inner v v') :
    Rewritten (record defaults) (record ((key, v) :: fields)) (record ((key, v') :: fields))

/-- **Overlays**: what can be made of a document by rewriting it over the defaults. -/
def Overlay (defaults : Json) : Json → Json → Prop := Relation.ReflTransGen (Rewritten defaults)

/-- All fields but one are left out. -/
theorem overlay_singleton {defaults rest : Record} (f : String × Json) (h : rest ⊆ defaults) :
    (record defaults).Overlay (record (f :: rest)) (record [f]) := by
  induction rest with
  | nil => exact .refl
  | cons g rest ih =>
    obtain ⟨hg, hrest⟩ := List.cons_subset.mp h
    exact .head (.reordered (.swap g f rest)) (.head (.omitted hg) (ih hrest))

/-- A section is rewritten step by step. -/
theorem Overlay.within {defaults fields : Record} {key : String} {inner v v' : Json}
    (h : (key, inner) ∈ defaults) (hv : inner.Overlay v v') :
    (record defaults).Overlay (record ((key, v) :: fields)) (record ((key, v') :: fields)) :=
  hv.lift (fun v => record ((key, v) :: fields)) fun _ _ hstep => Rewritten.within h hstep

/-- **What a rewriting makes of a field**: the same, or nothing if it held its default, or another
writing of it. -/
inductive FieldRewritten (default : Json) : Option Json → Option Json → Prop where
  | same (found : Option Json) : FieldRewritten default found found
  | omitted : FieldRewritten default (some default) none
  | within {v v' : Json} (h : Rewritten default v v') : FieldRewritten default (some v) (some v')

namespace Record

variable {r : Record} {names : List String} {name key : String} {v v' : Json}

theorem known_cons_of_mem (h : key ∈ names) :
    known names ((key, v) :: r) = (key, v) :: r.known names :=
  List.filter_cons_of_pos (List.contains_iff_mem.mpr h)

theorem known_cons_of_notMem (h : key ∉ names) : known names ((key, v) :: r) = r.known names :=
  List.filter_cons_of_neg (mt List.contains_iff_mem.mp h)

theorem lookup_cons_of_ne (h : name ≠ key) : List.lookup name ((key, v) :: r) = r.lookup name := by
  rw [List.lookup_cons, beq_eq_false_iff_ne.mpr h]

theorem lookup_eq_none_of_notMem (h : name ∉ r.map (·.1)) : r.lookup name = none := by
  refine List.lookup_eq_none_iff.mpr fun f hf => ?_
  exact bne_iff_ne.mpr fun heq => h (heq ▸ List.mem_map_of_mem (f := (·.1)) hf)

/-- A record without repeated names has one value under each. -/
theorem eq_of_mem_of_mem (hnodup : (r.map (·.1)).Nodup) (hv : (key, v) ∈ r) (hv' : (key, v') ∈ r) :
    v = v' :=
  Option.some.inj
    (((lookup_eq_some_iff hnodup).mpr hv).symm.trans ((lookup_eq_some_iff hnodup).mpr hv'))

theorem lookup_perm {r' : Record} (h : r.Perm r') (hnodup : (r.map (·.1)).Nodup) :
    r'.lookup name = r.lookup name := by
  have hnodup' := (h.map (·.1)).nodup_iff.mp hnodup
  refine Option.ext fun v => ?_
  rw [lookup_eq_some_iff hnodup', lookup_eq_some_iff hnodup]
  exact h.mem_iff.symm

end Record

theorem record?_record_eq_some_iff {names : List String} {fields r : Record} :
    (record fields).record? names = some r
      ↔ ((fields.known names).map (·.1)).Nodup ∧ fields.known names = r := by
  rw [record?_record_eq, Option.ite_none_right_eq_some, Option.some_inj]
  rfl

/-- A field at the head that is rewritten, and others that stay. -/
theorem fieldRewritten_of_head {defaults rest r : Record} {key : String} {inner v : Json}
    (hnodup : (defaults.map (·.1)).Nodup) (hdefault : (key, inner) ∈ defaults)
    (hhead : FieldRewritten inner (some v) (r.lookup key))
    (hothers : ∀ name, name ≠ key → r.lookup name = rest.lookup name) :
    ∀ f ∈ defaults,
      FieldRewritten f.2 (List.lookup f.1 ((key, v) :: rest)) (r.lookup f.1) := by
  intro f hf
  by_cases hkey : f.1 = key
  · subst hkey
    cases Record.eq_of_mem_of_mem hnodup hf hdefault
    rw [List.lookup_cons_self]
    exact hhead
  · rw [Record.lookup_cons_of_ne hkey, hothers f.1 hkey]
    exact .same _

/-- **A rewriting is read** as a record again, and each known field is rewritten as such. -/
theorem exists_record?_of_rewritten {names : List String} {defaults : Record}
    (hkeys : defaults.map (·.1) = names) (hnames : names.Nodup) {v v' : Json} {r : Record}
    (h : Rewritten (record defaults) v v') (hr : v.record? names = some r) :
    ∃ r', v'.record? names = some r'
      ∧ ∀ f ∈ defaults, FieldRewritten f.2 (r.lookup f.1) (r'.lookup f.1) := by
  have hknown {key : String} {inner : Json} (hdefault : (key, inner) ∈ defaults) (value : Json)
      (fields : Record) : Record.known names ((key, value) :: fields)
        = (key, value) :: fields.known names :=
    Record.known_cons_of_mem (hkeys ▸ List.mem_map_of_mem (f := (·.1)) hdefault)
  rw [← hkeys] at hnames
  generalize hd : record defaults = d at h
  cases h with
  | @reordered _ fields fields' hperm =>
    cases record_injective hd
    obtain ⟨hnodup, rfl⟩ := record?_record_eq_some_iff.mp hr
    have hperm' : (fields.known names).Perm (fields'.known names) := hperm.filter _
    refine ⟨_, record?_record_eq_some_iff.mpr ⟨(hperm'.map (·.1)).nodup_iff.mp hnodup, rfl⟩,
      fun f _ => ?_⟩
    rw [Record.lookup_perm hperm' hnodup]
    exact .same _
  | @added _ fields key value hkey =>
    cases record_injective hd
    obtain ⟨hnodup, rfl⟩ := record?_record_eq_some_iff.mp hr
    have hunknown : Record.known names ((key, value) :: fields) = fields.known names :=
      Record.known_cons_of_notMem (hkeys ▸ hkey)
    exact ⟨_, record?_record_eq_some_iff.mpr ⟨hunknown ▸ hnodup, hunknown⟩, fun f _ => .same _⟩
  | @omitted _ fields key value hdefault =>
    cases record_injective hd
    obtain ⟨hnodup, rfl⟩ := record?_record_eq_some_iff.mp hr
    rw [hknown hdefault] at hnodup ⊢
    obtain ⟨hfresh, hrest⟩ := List.nodup_cons.mp hnodup
    refine ⟨_, record?_record_eq_some_iff.mpr ⟨hrest, rfl⟩,
      fieldRewritten_of_head hnames hdefault ?_ fun _ _ => rfl⟩
    rw [Record.lookup_eq_none_of_notMem hfresh]
    exact .omitted
  | @within _ fields key inner v v' hdefault hv =>
    cases record_injective hd
    obtain ⟨hnodup, rfl⟩ := record?_record_eq_some_iff.mp hr
    rw [hknown hdefault] at hnodup ⊢
    have hnodup' : ((Record.known names ((key, v') :: fields)).map (·.1)).Nodup := by
      rw [hknown hdefault]
      exact hnodup
    refine ⟨_, record?_record_eq_some_iff.mpr ⟨hnodup', hknown hdefault v' fields⟩,
      fieldRewritten_of_head hnames hdefault ?_ fun _ => Record.lookup_cons_of_ne⟩
    rw [List.lookup_cons_self]
    exact .within hv

/-! ## Readers that tolerate rewriting -/

/-- **A reader tolerates rewriting** over a default. -/
structure Tolerates {α : Type} (reader : Json → Option α) (default : Json) (absent : α) : Prop where
  /-- The default is read as what stands for an absent value. -/
  default_eq : reader default = some absent
  /-- What is read is still read after a rewriting. -/
  rewritten : ∀ {v v' : Json} {a : α}, Rewritten default v v' → reader v = some a →
    reader v' = some a

section

variable {α : Type} {reader : Json → Option α} {default : Json} {absent : α}

/-- There is nothing to rewrite in a value that is no record. -/
theorem tolerates_of_not_record (hdefault : ∀ fields, default ≠ record fields)
    (hread : reader default = some absent) : Tolerates reader default absent where
  default_eq := hread
  rewritten := by
    intro v v' a h
    cases h <;> exact absurd rfl (hdefault _)

/-- **A field is read** as before a rewriting. -/
theorem Tolerates.fieldOr?_eq (h : Tolerates reader default absent) {r r' : Record} {name : String}
    (hfield : FieldRewritten default (r.lookup name) (r'.lookup name)) {a : α}
    (hread : r.fieldOr? name absent reader = some a) :
    r'.fieldOr? name absent reader = some a := by
  unfold Record.fieldOr? at hread ⊢
  generalize r.lookup name = found at hfield hread
  generalize r'.lookup name = found' at hfield
  cases hfield with
  | same => exact hread
  | omitted => exact h.default_eq.symm.trans hread
  | within hv => exact h.rewritten hv hread

/-- **Whatever is read is still read** of an overlay. -/
theorem Tolerates.of_overlay (h : Tolerates reader default absent) {v v' : Json} {a : α}
    (hv : default.Overlay v v') (hread : reader v = some a) : reader v' = some a := by
  induction hv with
  | refl => exact hread
  | tail _ hstep ih => exact h.rewritten hstep ih

theorem tolerates_nat {reader : Json → Option α} {n : Nat} (hread : reader (nat n) = some absent) :
    Tolerates reader (nat n) absent :=
  tolerates_of_not_record (fun _ => nofun) hread

theorem tolerates_text {s : String} (hread : reader (text s) = some absent) :
    Tolerates reader (text s) absent :=
  tolerates_of_not_record (fun _ => nofun) hread

end

end Json

/-! ## Sections -/

open Json Json.Record

theorem Parity.ofName?_name (parity : Parity) : ofName? parity.name = some parity := by
  cases parity <;> decide

theorem StopBits.ofName?_name (stopBits : StopBits) : ofName? stopBits.name = some stopBits := by
  cases stopBits <;> decide

namespace SerialSettings

/-- A baud rate. -/
def baudRate? (v : Json) : Option UInt32 := (v.natBelow? UInt32.size).map UInt32.ofNat

theorem baudRate?_nat (rate : UInt32) : baudRate? (nat rate.toNat) = some rate := by
  unfold baudRate?
  rw [natBelow?_nat rate.toNat_lt, Option.map_some, UInt32.ofNat_toNat]

/-- **What is read as serial settings**: a record, and each of its fields as one of them. -/
theorem ofJson?_eq_some_iff {v : Json} {s : SerialSettings} :
    ofJson? v = some s ↔ ∃ r, v.record? fieldNames = some r
      ∧ r.fieldOr? "port_name" "" text? = some s.portName
      ∧ r.fieldOr? "baud_rate" 9600 baudRate? = some s.baudRate
      ∧ r.fieldOr? "data_bits" 8 byte? = some s.dataBits
      ∧ r.fieldOr? "stop_bits" .one (choice? StopBits.ofName?) = some s.stopBits
      ∧ r.fieldOr? "parity" .none (choice? Parity.ofName?) = some s.parity := by
  simp only [ofJson?, Option.bind_eq_bind, Option.bind_eq_some_iff, Option.pure_def,
    Option.some_inj]
  constructor
  · rintro ⟨r, hr, _, hportName, _, hbaudRate, _, hdataBits, _, hstopBits, _, hparity, rfl⟩
    exact ⟨r, hr, hportName, hbaudRate, hdataBits, hstopBits, hparity⟩
  · rintro ⟨r, hr, hportName, hbaudRate, hdataBits, hstopBits, hparity⟩
    exact ⟨r, hr, _, hportName, _, hbaudRate, _, hdataBits, _, hstopBits, _, hparity, rfl⟩

/-- **Serial settings are read back.** -/
theorem ofJson?_toJson (s : SerialSettings) : ofJson? s.toJson = some s :=
  ofJson?_eq_some_iff.mpr ⟨_, record?_record rfl (by decide),
    fieldOr?_eq rfl (text?_text s.portName), fieldOr?_eq rfl (baudRate?_nat s.baudRate),
    fieldOr?_eq rfl (byte?_nat s.dataBits),
    fieldOr?_eq rfl (choice?_text (StopBits.ofName?_name s.stopBits)),
    fieldOr?_eq rfl (choice?_text (Parity.ofName?_name s.parity))⟩

/-- **Serial settings tolerate rewriting** over the default ones. -/
theorem tolerates : Tolerates ofJson? ({} : SerialSettings).toJson {} where
  default_eq := ofJson?_toJson {}
  rewritten := by
    intro v v' s h hread
    obtain ⟨r, hr, hportName, hbaudRate, hdataBits, hstopBits, hparity⟩ :=
      ofJson?_eq_some_iff.mp hread
    obtain ⟨r', hr', hfields⟩ := exists_record?_of_rewritten rfl (by decide) h hr
    simp only [List.forall_mem_cons] at hfields
    obtain ⟨hportName', hbaudRate', hdataBits', hstopBits', hparity', -⟩ := hfields
    exact ofJson?_eq_some_iff.mpr ⟨r', hr',
      (tolerates_text (text?_text _)).fieldOr?_eq hportName' hportName,
      (tolerates_nat (baudRate?_nat 9600)).fieldOr?_eq hbaudRate' hbaudRate,
      (tolerates_nat (byte?_nat 8)).fieldOr?_eq hdataBits' hdataBits,
      (tolerates_text (choice?_text (StopBits.ofName?_name _))).fieldOr?_eq hstopBits' hstopBits,
      (tolerates_text (choice?_text (Parity.ofName?_name _))).fieldOr?_eq hparity' hparity⟩

end SerialSettings

namespace Delays

/-- A number of milliseconds. -/
def milliseconds? (v : Json) : Option UInt64 := (v.natBelow? UInt64.size).map UInt64.ofNat

theorem milliseconds?_nat (ms : UInt64) : milliseconds? (nat ms.toNat) = some ms := by
  unfold milliseconds?
  rw [natBelow?_nat ms.toNat_lt, Option.map_some, UInt64.ofNat_toNat]

/-- **What is read as delays**: a record, and each of its fields as one of them. -/
theorem ofJson?_eq_some_iff {v : Json} {d : Delays} :
    ofJson? v = some d ↔ ∃ r, v.record? fieldNames = some r
      ∧ r.fieldOr? "response_timeout_ms" 5000 milliseconds? = some d.response
      ∧ r.fieldOr? "connect_settle_ms" 1000 milliseconds? = some d.connect
      ∧ r.fieldOr? "tick_settle_ms" 50 milliseconds? = some d.tick
      ∧ r.fieldOr? "reconnect_interval_ms" 200 milliseconds? = some d.reconnect
      ∧ r.fieldOr? "read_poll_ms" 50 milliseconds? = some d.poll := by
  simp only [ofJson?, Option.bind_eq_bind, Option.bind_eq_some_iff, Option.pure_def,
    Option.some_inj]
  constructor
  · rintro ⟨r, hr, _, hresponse, _, hconnect, _, htick, _, hreconnect, _, hpoll, rfl⟩
    exact ⟨r, hr, hresponse, hconnect, htick, hreconnect, hpoll⟩
  · rintro ⟨r, hr, hresponse, hconnect, htick, hreconnect, hpoll⟩
    exact ⟨r, hr, _, hresponse, _, hconnect, _, htick, _, hreconnect, _, hpoll, rfl⟩

/-- **Delays are read back.** -/
theorem ofJson?_toJson (d : Delays) : ofJson? d.toJson = some d :=
  ofJson?_eq_some_iff.mpr ⟨_, record?_record rfl (by decide),
    fieldOr?_eq rfl (milliseconds?_nat d.response), fieldOr?_eq rfl (milliseconds?_nat d.connect),
    fieldOr?_eq rfl (milliseconds?_nat d.tick), fieldOr?_eq rfl (milliseconds?_nat d.reconnect),
    fieldOr?_eq rfl (milliseconds?_nat d.poll)⟩

/-- **Delays tolerate rewriting** over the default ones. -/
theorem tolerates : Tolerates ofJson? ({} : Delays).toJson {} where
  default_eq := ofJson?_toJson {}
  rewritten := by
    intro v v' d h hread
    obtain ⟨r, hr, hresponse, hconnect, htick, hreconnect, hpoll⟩ := ofJson?_eq_some_iff.mp hread
    obtain ⟨r', hr', hfields⟩ := exists_record?_of_rewritten rfl (by decide) h hr
    simp only [fieldNames, toList, List.map_cons, List.map_nil, List.zip_cons_cons,
      List.zip_nil_right, List.forall_mem_cons] at hfields
    obtain ⟨hresponse', hconnect', htick', hreconnect', hpoll', -⟩ := hfields
    have htolerates (ms : UInt64) : Tolerates milliseconds? (nat ms.toNat) ms :=
      tolerates_nat (milliseconds?_nat ms)
    exact ofJson?_eq_some_iff.mpr ⟨r', hr', (htolerates _).fieldOr?_eq hresponse' hresponse,
      (htolerates _).fieldOr?_eq hconnect' hconnect, (htolerates _).fieldOr?_eq htick' htick,
      (htolerates _).fieldOr?_eq hreconnect' hreconnect, (htolerates _).fieldOr?_eq hpoll' hpoll⟩

end Delays

/-! ## The configuration -/

namespace Config

/-- A path by its text. -/
def path? (v : Json) : Option Path := v.text?.map Path.mk

theorem path?_text (path : Path) : path? (text path.text) = some path := by
  unfold path?
  rw [text?_text]
  rfl

/-- An address. -/
def address? (v : Json) : Option UInt16 := (v.natBelow? UInt16.size).map UInt16.ofNat

theorem address?_nat (address : UInt16) : address? (nat address.toNat) = some address := by
  unfold address?
  rw [natBelow?_nat address.toNat_lt, Option.map_some, UInt16.ofNat_toNat]

/-- **What is read as a configuration**: a record, each of its fields as one of the settings. -/
theorem ofJson?_eq_some_iff {v : Json} {c : Config} :
    ofJson? v = some c ↔ ∃ r, v.record? fieldNames = some r
      ∧ r.fieldOr? "serial" {} SerialSettings.ofJson? = some c.serial
      ∧ r.fieldOr? "timing" {} Delays.ofJson? = some c.delays
      ∧ r.fieldOr? "rom_file" none (nullable? path?) = some c.romFile
      ∧ r.fieldOr? "rom_origin" 0x8000 address? = some c.romOrigin
      ∧ r.fieldOr? "microcode_file" ⟨"microcode.json"⟩ path? = some c.tableFile
      ∧ r.fieldOr? "export_dir" ⟨"."⟩ path? = some c.exportDir
      ∧ r.fieldOr? "log_file" ⟨"logic-ctl.log"⟩ path? = some c.logFile := by
  simp only [ofJson?, Option.bind_eq_bind, Option.bind_eq_some_iff, Option.pure_def,
    Option.some_inj]
  constructor
  · rintro ⟨r, hr, _, hserial, _, hdelays, _, hromFile, _, hromOrigin, _, htableFile, _, hexportDir,
      _, hlogFile, rfl⟩
    exact ⟨r, hr, hserial, hdelays, hromFile, hromOrigin, htableFile, hexportDir, hlogFile⟩
  · rintro ⟨r, hr, hserial, hdelays, hromFile, hromOrigin, htableFile, hexportDir, hlogFile⟩
    exact ⟨r, hr, _, hserial, _, hdelays, _, hromFile, _, hromOrigin, _, htableFile, _, hexportDir,
      _, hlogFile, rfl⟩

/-- **A configuration is read back.** -/
theorem ofJson?_toJson (c : Config) : ofJson? c.toJson = some c := by
  have hromFile : nullable? path? (c.romFile.elim .null fun path => .text path.text)
      = some c.romFile := by
    cases c.romFile with
    | none => rfl
    | some path => exact congrArg (Option.map some) (path?_text path)
  exact ofJson?_eq_some_iff.mpr ⟨_, record?_record rfl (by decide),
    fieldOr?_eq rfl (SerialSettings.ofJson?_toJson c.serial),
    fieldOr?_eq rfl (Delays.ofJson?_toJson c.delays), fieldOr?_eq rfl hromFile,
    fieldOr?_eq rfl (address?_nat c.romOrigin), fieldOr?_eq rfl (path?_text c.tableFile),
    fieldOr?_eq rfl (path?_text c.exportDir), fieldOr?_eq rfl (path?_text c.logFile)⟩

/-- **A configuration tolerates rewriting** over the default one. -/
theorem tolerates : Tolerates ofJson? ({} : Config).toJson {} where
  default_eq := ofJson?_toJson {}
  rewritten := by
    intro v v' c h hread
    obtain ⟨r, hr, hserial, hdelays, hromFile, hromOrigin, htableFile, hexportDir, hlogFile⟩ :=
      ofJson?_eq_some_iff.mp hread
    obtain ⟨r', hr', hfields⟩ := exists_record?_of_rewritten rfl (by decide) h hr
    simp only [List.forall_mem_cons] at hfields
    obtain ⟨hserial', hdelays', hromFile', hromOrigin', htableFile', hexportDir', hlogFile', -⟩ :=
      hfields
    have hnull : Tolerates (nullable? path?) null none :=
      tolerates_of_not_record (fun _ => nofun) rfl
    exact ofJson?_eq_some_iff.mpr ⟨r', hr', SerialSettings.tolerates.fieldOr?_eq hserial' hserial,
      Delays.tolerates.fieldOr?_eq hdelays' hdelays,
      hnull.fieldOr?_eq hromFile' hromFile,
      (tolerates_nat (address?_nat 0x8000)).fieldOr?_eq hromOrigin' hromOrigin,
      (tolerates_text (path?_text _)).fieldOr?_eq htableFile' htableFile,
      (tolerates_text (path?_text _)).fieldOr?_eq hexportDir' hexportDir,
      (tolerates_text (path?_text _)).fieldOr?_eq hlogFile' hlogFile⟩

/-- **The saved form** is made of texts and integers. -/
theorem textual_toJson (c : Config) : c.toJson.Textual := by
  have hserial : c.serial.toJson.Textual := by
    refine textual_record ?_
    simp only [List.forall_mem_cons]
    exact ⟨textual_text _, textual_nat _, textual_nat _, textual_text _, textual_text _,
      fun _ h => absurd h List.not_mem_nil⟩
  have hdelays : c.delays.toJson.Textual := by
    refine textual_record fun f hf => ?_
    obtain ⟨ms, -, hms⟩ := List.mem_map.mp (List.of_mem_zip hf).2
    exact hms ▸ textual_nat ms.toNat
  have hromFile : (c.romFile.elim null fun path => text path.text).Textual := by
    cases c.romFile with
    | none => exact textual_null
    | some path => exact textual_text path.text
  refine textual_record ?_
  simp only [List.forall_mem_cons]
  exact ⟨hserial, hdelays, hromFile, textual_nat _, textual_text _, textual_text _, textual_text _,
    fun _ h => absurd h List.not_mem_nil⟩

/-! ## Flaws -/

/-- **The flaws of a configuration**: the number of data bits, then each delay that is zero but
must not be. -/
def flaws (c : Config) : List ConfigFlaw :=
  (if 5 ≤ c.serial.dataBits ∧ c.serial.dataBits ≤ 8 then [] else [.dataBits c.serial.dataBits])
    ++ [("response_timeout_ms", c.delays.response), ("reconnect_interval_ms", c.delays.reconnect),
        ("read_poll_ms", c.delays.poll)].filterMap fun (name, ms) =>
          if ms = 0 then some (.zeroDelay name) else none

/-- **Workable** configurations. -/
structure Workable (c : Config) : Prop where
  /-- A character has five to eight data bits. -/
  dataBits : 5 ≤ c.serial.dataBits ∧ c.serial.dataBits ≤ 8
  response : c.delays.response ≠ 0
  reconnect : c.delays.reconnect ≠ 0
  poll : c.delays.poll ≠ 0

/-- Those without a flaw are workable. -/
theorem flaws_eq_nil_iff {c : Config} : c.flaws = [] ↔ c.Workable := by
  have hdelay (name : String) (ms : UInt64) :
      (if ms = 0 then some (ConfigFlaw.zeroDelay name) else none) = none ↔ ms ≠ 0 := by
    rw [ite_eq_right_iff]
    exact ⟨fun h hms => Option.some_ne_none _ (h hms), fun h hms => absurd hms h⟩
  have hdataBits : (if 5 ≤ c.serial.dataBits ∧ c.serial.dataBits ≤ 8 then []
      else [ConfigFlaw.dataBits c.serial.dataBits]) = []
      ↔ 5 ≤ c.serial.dataBits ∧ c.serial.dataBits ≤ 8 := by
    rw [ite_eq_left_iff]
    exact ⟨fun h => by_contra fun hbits => List.cons_ne_nil _ _ (h hbits),
      fun h hbits => absurd h hbits⟩
  unfold flaws
  simp only [List.append_eq_nil_iff, List.filterMap_eq_nil_iff, List.forall_mem_cons, hdataBits,
    hdelay]
  exact ⟨fun ⟨hbits, hresponse, hreconnect, hpoll, _⟩ => ⟨hbits, hresponse, hreconnect, hpoll⟩,
    fun h => ⟨h.dataBits, h.response, h.reconnect, h.poll, fun _ h => absurd h List.not_mem_nil⟩⟩

/-- **The first flaw** is the one that is found. -/
theorem flaw?_eq_head? (c : Config) : c.flaw? = c.flaws.head? := by
  have hdataBits : (c.serial.dataBits < 5 ∨ 8 < c.serial.dataBits)
      ↔ ¬ (5 ≤ c.serial.dataBits ∧ c.serial.dataBits ≤ 8) := by
    rw [not_and_or, UInt8.not_le, UInt8.not_le]
  unfold flaw? flaws
  simp only [hdataBits, ite_not]
  split_ifs with hbits hresponse hreconnect hpoll <;> simp [*]

/-! ## Files -/

/-- What loading a configuration gives in a session. -/
def loaded (path : Path) (s : Session) : Except ConfigError Config :=
  ((load path : StateM Session (Except ConfigError Config)) s).1

variable {path : Path} {s : Session}

/-- **A file that holds a configuration** is loaded by the first flaw of that configuration. -/
theorem loaded_eq_of_parse {file : String} (hread : s.files.read path = .ok (Text.utf8 file))
    {c : Config} (hparse : parse? (Text.utf8 file) >>= ofJson? = some c) :
    loaded path s = c.flaws.head?.elim (.ok c) fun flaw => .error (.flawed flaw) := by
  unfold loaded load
  simp only [bind, StateT.bind, MonadFiles.readFile, hread]
  show parse path (Text.utf8 file) = _
  unfold parse
  rw [Text.ofUtf8?_utf8, hparse, ← flaw?_eq_head?]

/-- A workable configuration is loaded from each text of what it is read of. -/
theorem loaded_eq_of_workable {c : Config} (hc : c.Workable) {v : Json} (hv : ofJson? v = some c)
    {file : String} (hfile : v.SpelledBy (Text.utf8 file))
    (hread : s.files.read path = .ok (Text.utf8 file)) : loaded path s = .ok c := by
  have hparse : parse? (Text.utf8 file) >>= ofJson? = some c := by
    rw [parse?_of_spelledBy hfile, Option.bind_eq_bind, Option.bind_some, hv]
  rw [loaded_eq_of_parse hread hparse, flaws_eq_nil_iff.mpr hc]
  rfl

/-- **A configuration file is an overlay on the defaults.** The document of a workable
configuration, which is a text, can be rewritten over the default one in any way, and from each
text of the outcome that configuration is loaded. Whatever configuration a file holds, it is loaded
if it is workable, and refused for the first of its flaws if not. -/
theorem load_overlay :
    (∀ c : Config, c.Workable →
      (∃ file, Text.utf8 file = c.toJson.print ∧ c.toJson.SpelledBy (Text.utf8 file))
      ∧ ∀ (v : Json) (file : String) (path : Path) (s : Session),
        ({} : Config).toJson.Overlay c.toJson v → v.SpelledBy (Text.utf8 file) →
        s.files.read path = .ok (Text.utf8 file) → loaded path s = .ok c)
    ∧ ∀ (file : String) (c : Config) (path : Path) (s : Session),
      parse? (Text.utf8 file) >>= ofJson? = some c →
      s.files.read path = .ok (Text.utf8 file) →
      (∀ c', loaded path s = .ok c' ↔ c' = c ∧ c.Workable)
      ∧ ∀ e, loaded path s = .error e ↔ ∃ flaw, e = .flawed flaw ∧ c.flaws.head? = some flaw := by
  refine ⟨fun c hc => ⟨?_, ?_⟩, fun file c path s hparse hread => ?_⟩
  · have htextual := c.textual_toJson
    obtain ⟨file, hfile⟩ := htextual.encoded_print
    exact ⟨file, hfile, hfile ▸ spelledBy_print htextual.plain⟩
  · intro v file path s hv hfile hread
    exact loaded_eq_of_workable hc (tolerates.of_overlay hv c.ofJson?_toJson) hfile hread
  · have hloaded := loaded_eq_of_parse hread hparse
    rw [← flaws_eq_nil_iff]
    cases hflaws : c.flaws with
    | nil =>
      rw [hflaws] at hloaded
      simp [hloaded, eq_comm]
    | cons flaw rest =>
      rw [hflaws] at hloaded
      simp [hloaded, eq_comm]

/-- A file that gives the device and nothing else, but for a field that is not known. -/
theorem load_overlay_portName :
    ∃ (file : String) (s : Session), s.files.read ⟨"config.json"⟩ = .ok (Text.utf8 file)
      ∧ (record [("unknown", null), ("serial", record [("port_name", text "ttyS0")])]).SpelledBy
          (Text.utf8 file)
      ∧ loaded ⟨"config.json"⟩ s = .ok { serial := { portName := "ttyS0" } } := by
  have htextual : Textual
      (record [("unknown", null), ("serial", record [("port_name", text "ttyS0")])]) :=
    textual_record (List.forall_mem_cons.mpr ⟨textual_null, List.forall_mem_singleton.mpr
      (textual_record (List.forall_mem_singleton.mpr (textual_text "ttyS0")))⟩)
  obtain ⟨file, hfile⟩ := htextual.encoded_print
  have hspelled := spelledBy_print htextual.plain
  rw [← hfile] at hspelled
  obtain ⟨s, hread⟩ : ∃ s : Session, s.files.read ⟨"config.json"⟩ = .ok (Text.utf8 file) :=
    ⟨.start _, FileTree.read_of_write (t := .empty) rfl⟩
  have hserial : Overlay ({} : SerialSettings).toJson
      ({ portName := "ttyS0" } : SerialSettings).toJson (record [("port_name", text "ttyS0")]) :=
    overlay_singleton _ (List.subset_cons_self _ _)
  have hconfig : Overlay ({} : Config).toJson
      ({ serial := { portName := "ttyS0" } } : Config).toJson
      (record [("unknown", null), ("serial", record [("port_name", text "ttyS0")])]) :=
    ((overlay_singleton _ (List.subset_cons_self _ _)).trans
      (Overlay.within List.mem_cons_self hserial)).tail (.added (by decide))
  exact ⟨file, s, hread, hspelled,
    (load_overlay.1 _ (flaws_eq_nil_iff.mp rfl)).2 _ file _ s hconfig hspelled hread⟩

end Config

end Breadboard
