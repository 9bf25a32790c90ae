import PatternRouter.Proofs.Settings.Acceptance
import PatternRouter.Proofs.Toml.Distinct
import PatternRouter.Proofs.Toml.Lines

/-!
# Documents overlay the default settings

A document gives some of the settings and leaves the others at their defaults. Both a group and a
single setting may be missing, and each has a default of its own; together they come to one default
for each setting, which no other setting has a say in.

The module introduces:

* `Toml.Entries.Holds entries group name node` — what a document holds in the tables of groups, in
  whatever order;
* `GivenSettings` — some of the settings, with a value for each;
* `GivenSettings.overlay given base` — settings with what is given in the place of what they have;
* `GivenSettings.IsGivenBy given entries` — what a document says of all settings.

The main result is `Settings.overlay_defaults`.
-/

namespace PatternRouter

/-! ## What a document says -/

namespace Toml.Entries

/-- A node stands under a name in the table of a group. -/
def Holds (entries : Entries) (group name : String) (node : Node) : Prop :=
  ∃ form inner, (group, .table form inner) ∈ entries ∧ (name, node) ∈ inner

/-- What stands under a name in the table of a group spells a value. Without a value, nothing stands
there. -/
def Says {α : Type} (entries : Entries) (group name : String) (spell : α → Node)
    (value : Option α) : Prop :=
  ∀ node, entries.Holds group name node ↔ ∃ given ∈ value, node = spell given

/-- Nothing but a table is bound to a name. -/
def IsTable (entries : Entries) (group : String) : Prop :=
  ∀ node, (group, node) ∈ entries → ∃ form inner, node = .table form inner

end Toml.Entries

/-- The name of a form of log lines. -/
def LogFormat.name : LogFormat → String
  | .pretty => "pretty"
  | .json => "json"

/-- The full names of the settings. -/
def Settings.fullNames : List (List String) :=
  [["listener", "bind_address"], ["timeouts", "request_secs"], ["identity", "enabled"],
    ["identity", "header"], ["observability", "log_level"], ["observability", "log_format"],
    ["observability", "metrics_enabled"], ["observability", "metrics_address"]]

/-- Some of the settings. -/
@[ext]
structure GivenSettings where
  bindAddress : Option String := none
  requestSeconds : Option UInt64 := none
  enabled : Option Bool := none
  header : Option String := none
  logLevel : Option String := none
  logFormat : Option LogFormat := none
  metricsEnabled : Option Bool := none
  metricsAddress : Option String := none
deriving DecidableEq, Repr

namespace GivenSettings

/-- Settings with what is given in the place of what they have. -/
def overlay (given : GivenSettings) (base : Settings) : Settings where
  listener.bindAddress := given.bindAddress.getD base.listener.bindAddress
  timeouts.requestSeconds := given.requestSeconds.getD base.timeouts.requestSeconds
  identity.enabled := given.enabled.getD base.identity.enabled
  identity.header := given.header.getD base.identity.header
  observability.logLevel := given.logLevel.getD base.observability.logLevel
  observability.logFormat := given.logFormat.getD base.observability.logFormat
  observability.metricsEnabled := given.metricsEnabled.getD base.observability.metricsEnabled
  observability.metricsAddress := given.metricsAddress.getD base.observability.metricsAddress

/-- A document gives these settings and no others. Its groups are tables; what else stands in them
or beside them is left open. -/
structure IsGivenBy (given : GivenSettings) (entries : Toml.Entries) : Prop where
  listener : entries.IsTable "listener"
  timeouts : entries.IsTable "timeouts"
  identity : entries.IsTable "identity"
  observability : entries.IsTable "observability"
  bindAddress : entries.Says "listener" "bind_address" .string given.bindAddress
  /-- Numbers are spelled without a sign. -/
  requestSeconds :
    entries.Says "timeouts" "request_secs" (.integer ·.toNat) given.requestSeconds
  enabled : entries.Says "identity" "enabled" .boolean given.enabled
  header : entries.Says "identity" "header" .string given.header
  logLevel : entries.Says "observability" "log_level" .string given.logLevel
  logFormat : entries.Says "observability" "log_format" (.string ·.name) given.logFormat
  metricsEnabled : entries.Says "observability" "metrics_enabled" .boolean given.metricsEnabled
  metricsAddress : entries.Says "observability" "metrics_address" .string given.metricsAddress

end GivenSettings

/-! ## Reading what is said -/

namespace Toml

theorem Node.word?_toNat (value : UInt64) : (Node.integer value.toNat).word? = some value := by
  have hlt : value.toNat < UInt64.size := value.toNat_lt
  rw [Node.word?, if_pos ⟨Int.natCast_nonneg _, by simpa using hlt⟩]
  simp

namespace Entries

variable {α β : Type} {entries inner : Entries} {form : TableForm} {group name : String}
  {spell : α → Node} {value : Option α}

/-- What stands in the table of a group is found there. -/
theorem holds_iff (h : entries.Distinct) (hgroup : (group, .table form inner) ∈ entries)
    (node : Node) : entries.Holds group name node ↔ inner.get? name = some node := by
  rw [get?_eq_some_iff_mem (Node.distinct_table_iff.1 (h.nodes _ hgroup)).names]
  constructor
  · rintro ⟨other, table, hmem, hnode⟩
    -- The name of the group is bound once.
    have hget := (get?_eq_some_iff_mem h.names).2 hmem
    rw [(get?_eq_some_iff_mem h.names).2 hgroup] at hget
    cases hget
    exact hnode
  · intro hnode
    exact ⟨form, inner, hgroup, hnode⟩

/-- A value stands in the table of a group exactly if it stands behind the two names. -/
theorem holds_iff_leaf (h : entries.Distinct) (htable : entries.IsTable group) {leaf : Node}
    (hleaf : leaf.isTable = false) :
    entries.Holds group name leaf ↔ entries.Leaf [group, name] leaf := by
  constructor
  · rintro ⟨form, inner, hgroup, hname⟩
    have hinner := Node.distinct_table_iff.1 (h.nodes _ hgroup)
    rw [leaf_cons_iff ((get?_eq_some_iff_mem h.names).2 hgroup), Node.leaf_table,
      leaf_cons_iff ((get?_eq_some_iff_mem hinner.names).2 hname), Node.leaf_nil_iff]
    exact ⟨hleaf, rfl⟩
  · rintro ⟨_, _, node, ⟨⟩, hgroup, hnode⟩
    -- Behind a name in a row of tables more than one value could stand.
    obtain ⟨form, inner, rfl⟩ := htable node (mem_of_get?_eq_some hgroup)
    rw [Node.leaf_table] at hnode
    obtain ⟨_, _, node, ⟨⟩, hname, hnode⟩ := hnode
    obtain ⟨-, rfl⟩ := Node.leaf_nil_iff.1 hnode
    exact ⟨form, inner, mem_of_get?_eq_some hgroup, mem_of_get?_eq_some hname⟩

/-- Documents that hold the same values behind two names say the same of the setting. -/
theorem Says.eq_of_leaf {entries' : Entries} {value' : Option α}
    (hgives : entries.Says group name spell value) (hgives' : entries'.Says group name spell value')
    (h : entries.Distinct) (h' : entries'.Distinct) (htable : entries.IsTable group)
    (htable' : entries'.IsTable group) (hspell : Function.Injective spell)
    (hvalue : ∀ given, (spell given).isTable = false)
    (hleaf : ∀ leaf, entries.Leaf [group, name] leaf ↔ entries'.Leaf [group, name] leaf) :
    value = value' := by
  -- Spelled apart, values are told apart by what stands behind the names.
  ext given
  have hgiven : ∀ own : Option α, own = some given ↔ ∃ other ∈ own, spell given = spell other := by
    intro own
    simp [hspell.eq_iff]
  rw [hgiven, hgiven, ← hgives, ← hgives', holds_iff_leaf h htable (hvalue given),
    holds_iff_leaf h' htable' (hvalue given), hleaf]

/-- Reading a setting of a group gives its value, or the default if it has none. -/
theorem Says.readOr_eq (hgives : entries.Says group name spell value) (h : entries.Distinct)
    (hgroup : (group, .table form inner) ∈ entries) (read? : Node → Option α)
    (hread : ∀ given, read? (spell given) = some given) (default : α) :
    readOr default read? (inner.get? name) = some (value.getD default) := by
  cases value with
  | none =>
    have hnone : inner.get? name = none := by
      rw [Option.eq_none_iff_forall_ne_some]
      intro node hnode
      obtain ⟨_, hgiven, -⟩ := (hgives node).1 ((holds_iff h hgroup node).2 hnode)
      nomatch hgiven
    -- Here the default of the single setting is read.
    rw [hnone]
    rfl
  | some given =>
    have hsome : inner.get? name = some (spell given) :=
      (holds_iff h hgroup _).1 ((hgives _).2 ⟨given, rfl, rfl⟩)
    rw [hsome]
    exact hread given

/-- Without its group a setting has no value. -/
theorem Says.eq_none (hgives : entries.Says group name spell value)
    (hgroup : entries.get? group = none) : value = none := by
  cases value with
  | none => rfl
  | some given =>
    obtain ⟨form, inner, hmem, -⟩ := (hgives _).2 ⟨given, rfl, rfl⟩
    rw [get?_eq_none_iff] at hgroup
    exact absurd (List.mem_map_of_mem hmem) hgroup

/-- A group is read as its table is, and is at its default if there is none. -/
theorem IsTable.readOr_eq (htable : entries.IsTable group) {read? : Node → Option β}
    {default result : β} (habsent : entries.get? group = none → default = result)
    (hpresent : ∀ form inner, (group, .table form inner) ∈ entries →
      read? (.table form inner) = some result) :
    readOr default read? (entries.get? group) = some result := by
  cases hget : entries.get? group with
  | none => rw [readOr, habsent hget]
  | some node =>
    have hmem := mem_of_get?_eq_some hget
    obtain ⟨form, inner, rfl⟩ := htable node hmem
    exact hpresent form inner hmem

end Entries

theorem Node.integer_toNat_injective :
    Function.Injective fun value : UInt64 => Node.integer value.toNat := by
  intro value value' h
  exact UInt64.toNat_inj.1 (Int.ofNat_inj.1 (Node.integer.inj h))

end Toml

theorem LogFormat.string_name_injective :
    Function.Injective fun format : LogFormat => Toml.Node.string format.name := by
  intro format format' h
  cases format <;> cases format' <;> first | rfl | exact absurd (Toml.Node.string.inj h) (by decide)

theorem LogFormat.ofNode?_name (format : LogFormat) : ofNode? (.string format.name) = some format := by
  cases format <;> rfl

namespace GivenSettings.IsGivenBy

variable {given : GivenSettings} {entries : Toml.Entries} (h : given.IsGivenBy entries)
  (hdistinct : entries.Distinct)

include h hdistinct

theorem readOr_listener :
    readOr {} ListenerSettings.ofNode? (entries.get? "listener") =
      some (given.overlay {}).listener := by
  refine h.listener.readOr_eq ?_ ?_
  · intro hgroup
    rw [overlay, h.bindAddress.eq_none hgroup]
    rfl
  · intro form inner hgroup
    have hbind := h.bindAddress.readOr_eq hdistinct hgroup Toml.Node.string? fun _ => rfl
    simp [ListenerSettings.ofNode?, SettingsGroup.ofNode?, SettingsGroup.node?, overlay, hbind]

theorem readOr_timeouts :
    readOr {} TimeoutSettings.ofNode? (entries.get? "timeouts") =
      some (given.overlay {}).timeouts := by
  refine h.timeouts.readOr_eq ?_ ?_
  · intro hgroup
    rw [overlay, h.requestSeconds.eq_none hgroup]
    rfl
  · intro form inner hgroup
    have hseconds :=
      h.requestSeconds.readOr_eq hdistinct hgroup Toml.Node.word? Toml.Node.word?_toNat
    simp [TimeoutSettings.ofNode?, SettingsGroup.ofNode?, SettingsGroup.node?, overlay, hseconds]

theorem readOr_identity :
    readOr {} IdentitySettings.ofNode? (entries.get? "identity") =
      some (given.overlay {}).identity := by
  refine h.identity.readOr_eq ?_ ?_
  · -- The default of the group is the defaults of its settings.
    intro hgroup
    rw [overlay, h.enabled.eq_none hgroup, h.header.eq_none hgroup]
    rfl
  · intro form inner hgroup
    have henabled := h.enabled.readOr_eq hdistinct hgroup Toml.Node.boolean? fun _ => rfl
    have hheader := h.header.readOr_eq hdistinct hgroup Toml.Node.string? fun _ => rfl
    simp [IdentitySettings.ofNode?, SettingsGroup.ofNode?, SettingsGroup.node?, overlay, henabled,
      hheader]

theorem readOr_observability :
    readOr {} ObservabilitySettings.ofNode? (entries.get? "observability") =
      some (given.overlay {}).observability := by
  refine h.observability.readOr_eq ?_ ?_
  · intro hgroup
    rw [overlay, h.logLevel.eq_none hgroup, h.logFormat.eq_none hgroup,
      h.metricsEnabled.eq_none hgroup, h.metricsAddress.eq_none hgroup]
    rfl
  · intro form inner hgroup
    have hlevel := h.logLevel.readOr_eq hdistinct hgroup Toml.Node.string? fun _ => rfl
    have hformat := h.logFormat.readOr_eq hdistinct hgroup LogFormat.ofNode? LogFormat.ofNode?_name
    have henabled := h.metricsEnabled.readOr_eq hdistinct hgroup Toml.Node.boolean? fun _ => rfl
    have haddress := h.metricsAddress.readOr_eq hdistinct hgroup Toml.Node.string? fun _ => rfl
    simp [ObservabilitySettings.ofNode?, SettingsGroup.ofNode?, SettingsGroup.node?, overlay, hlevel,
      hformat, henabled, haddress]

/-- The settings of a document are the default ones, but for what it gives. -/
theorem ofEntries?_eq : Settings.ofEntries? entries = some (given.overlay {}) := by
  rw [Settings.ofEntries?, h.readOr_listener hdistinct, h.readOr_timeouts hdistinct,
    h.readOr_identity hdistinct, h.readOr_observability hdistinct]
  rfl

/-- Documents that hold the same values behind the names of the settings give the same ones. -/
theorem eq_of_leaf {given' : GivenSettings} {entries' : Toml.Entries}
    (h' : given'.IsGivenBy entries') (hdistinct' : entries'.Distinct)
    (hleaf : ∀ names ∈ Settings.fullNames, ∀ leaf, entries.Leaf names leaf ↔ entries'.Leaf names leaf) :
    given = given' := by
  have hstring : Function.Injective Toml.Node.string := fun _ _ => Toml.Node.string.inj
  have hboolean : Function.Injective Toml.Node.boolean := fun _ _ => Toml.Node.boolean.inj
  apply GivenSettings.ext
  · exact h.bindAddress.eq_of_leaf h'.bindAddress hdistinct hdistinct' h.listener h'.listener hstring
      (fun _ => rfl) (hleaf _ (by decide))
  · exact h.requestSeconds.eq_of_leaf h'.requestSeconds hdistinct hdistinct' h.timeouts h'.timeouts
      Toml.Node.integer_toNat_injective (fun _ => rfl) (hleaf _ (by decide))
  · exact h.enabled.eq_of_leaf h'.enabled hdistinct hdistinct' h.identity h'.identity hboolean
      (fun _ => rfl) (hleaf _ (by decide))
  · exact h.header.eq_of_leaf h'.header hdistinct hdistinct' h.identity h'.identity hstring
      (fun _ => rfl) (hleaf _ (by decide))
  · exact h.logLevel.eq_of_leaf h'.logLevel hdistinct hdistinct' h.observability h'.observability
      hstring (fun _ => rfl) (hleaf _ (by decide))
  · exact h.logFormat.eq_of_leaf h'.logFormat hdistinct hdistinct' h.observability h'.observability
      LogFormat.string_name_injective (fun _ => rfl) (hleaf _ (by decide))
  · exact h.metricsEnabled.eq_of_leaf h'.metricsEnabled hdistinct hdistinct' h.observability
      h'.observability hboolean (fun _ => rfl) (hleaf _ (by decide))
  · exact h.metricsAddress.eq_of_leaf h'.metricsAddress hdistinct hdistinct' h.observability
      h'.observability hstring (fun _ => rfl) (hleaf _ (by decide))

theorem ofText?_eq {text : String} (htext : Toml.Document.parse? text = some entries) :
    Settings.ofText? text = some (given.overlay {}) := by
  rw [Settings.ofText?, htext]
  exact h.ofEntries?_eq hdistinct

end GivenSettings.IsGivenBy

namespace Settings

/-- The settings of a document are the default ones, but for what it gives. They are taken if nothing
is wrong with them. What else the document holds has no effect, and neither has the order of its
lines. -/
theorem overlay_defaults {text : String} {entries : Toml.Entries} {given : GivenSettings}
    (htext : Toml.Document.parse? text = some entries) (hgiven : given.IsGivenBy entries) :
    ofText? text = some (given.overlay {}) ∧
      parse text =
        (if (given.overlay {}).validate = [] then .ok (given.overlay {})
        else .error (.invalid (given.overlay {}).validate)) ∧
      ((∃ settings, parse text = .ok settings) ↔ (given.overlay {}).validate = []) ∧
      (∀ other otherEntries, Toml.Document.parse? other = some otherEntries →
        given.IsGivenBy otherEntries → parse other = parse text) ∧
      ∀ other otherEntries, Toml.Document.parse? other = some otherEntries →
        (∃ otherGiven : GivenSettings, otherGiven.IsGivenBy otherEntries) →
        (∀ names ∈ fullNames, ∀ leaf,
          Toml.Document.LinesBind other names leaf ↔ Toml.Document.LinesBind text names leaf) →
        parse other = parse text := by
  have ofText?_eq : ∀ {own : String} {ownEntries : Toml.Entries},
      Toml.Document.parse? own = some ownEntries → given.IsGivenBy ownEntries →
      ofText? own = some (given.overlay {}) := by
    intro own ownEntries hown hgiven
    exact hgiven.ofText?_eq (Toml.Document.distinct_of_parse? hown) hown
  have hsettings := ofText?_eq htext hgiven
  refine ⟨hsettings, parse_of_ofText? hsettings, ?_, ?_, ?_⟩
  · simp only [parse_eq_ok_iff, hsettings, Option.some.injEq, exists_eq_left']
  · intro other otherEntries hother hgiven
    rw [parse_of_ofText? hsettings, parse_of_ofText? (ofText?_eq hother hgiven)]
  · rintro other otherEntries hother ⟨otherGiven, hotherGiven⟩ hlines
    -- What the lines bind to the names of the settings decides which settings are given.
    obtain rfl : otherGiven = given := by
      refine hotherGiven.eq_of_leaf (Toml.Document.distinct_of_parse? hother) hgiven
        (Toml.Document.distinct_of_parse? htext) ?_
      intro names hnames leaf
      rw [Toml.Document.leaf_iff_linesBind hother, Toml.Document.leaf_iff_linesBind htext,
        hlines names hnames]
    rw [parse_of_ofText? hsettings, parse_of_ofText? (ofText?_eq hother hotherGiven)]

set_option maxRecDepth 4000 in
/-- Two settings are given once in tables and once in a line each, among other names. -/
theorem overlay_defaults_two_settings :
    parse "[observability]\nlog_format = \"json\"\nother.key = [1]\n[timeouts]\nrequest_secs = 9\n" =
        .ok { timeouts.requestSeconds := 9, observability.logFormat := .json } ∧
      parse "timeouts = \x7brequest_secs = 9\x7d\nobservability.log_format = \"json\"\n[[listeners]]\n" =
        .ok { timeouts.requestSeconds := 9, observability.logFormat := .json } := by
  have htables : Toml.Document.parse?
      "[observability]\nlog_format = \"json\"\nother.key = [1]\n[timeouts]\nrequest_secs = 9\n" =
        some [
          ("observability", .table .header [
            ("log_format", .string "json"),
            ("other", .table .dotted [("key", .array [.integer 1])])]),
          ("timeouts", .table .header [("request_secs", .integer 9)])] := by
    rfl
  have hlines : Toml.Document.parse?
      "timeouts = \x7brequest_secs = 9\x7d\nobservability.log_format = \"json\"\n[[listeners]]\n" =
        some [
          ("timeouts", .table .inline [("request_secs", .integer 9)]),
          ("observability", .table .dotted [("log_format", .string "json")]),
          ("listeners", .tables [[]])] := by
    rfl
  obtain ⟨-, hparse, -, -, hsame⟩ := overlay_defaults htables <|
    show GivenSettings.IsGivenBy { requestSeconds := some 9, logFormat := some .json } _ by
      constructor <;> simp [Toml.Entries.IsTable, Toml.Entries.Says, Toml.Entries.Holds, LogFormat.name]
  -- Nothing is wrong with the two settings.
  rw [if_pos (by decide)] at hparse
  refine ⟨hparse, (hsame _ _ hlines ?_ ?_).trans hparse⟩
  · use { requestSeconds := some 9, logFormat := some .json }
    constructor <;> simp [Toml.Entries.IsTable, Toml.Entries.Says, Toml.Entries.Holds, LogFormat.name]
  · intro names hnames leaf
    rw [← Toml.Document.leaf_iff_linesBind htables, ← Toml.Document.leaf_iff_linesBind hlines]
    simp only [fullNames, List.mem_cons, List.not_mem_nil, or_false] at hnames
    rcases hnames with rfl | rfl | rfl | rfl | rfl | rfl | rfl | rfl <;>
      simp [Toml.Entries.Leaf, Toml.Entries.get?, Toml.Node.leaf_table, List.lookup_cons]

end Settings

end PatternRouter
