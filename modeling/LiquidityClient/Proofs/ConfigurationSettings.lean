import LiquidityClient.Configuration
import LiquidityClient.Proofs.Toml.RenderedDocument
import Mathlib.Data.Fintype.Basic

/-!
# Settings of a configuration

A configuration has seventeen settings in five groups, and is nothing but their values
(`Configuration.value_injective`). A document may set any of them, each in the table of its group :
`SetsExactly` says that it sets the settings in a set to their values in a configuration and leaves
out all others, whether or not it has the tables of groups in which nothing is set. Since documents
are texts, none sets a path that is no text (`Configuration.TextPaths`).

Standard values are given twice, for each setting and for each group as a whole. They agree : a
section without entries gives the standard group (`ProviderSettings.ofSection?_empty` and its like),
so that a group that is left out reads like one without entries (`Section.settings?_written`). Each
kind of setting then reads as its value if it is set, and as its standard value otherwise
(`Section.text?_written` and its like), and so does a whole document
(`Configuration.ofTable?_of_setsExactly`).

`tablesOf` writes the settings in a set, in the tables of some groups. These tables can be rendered
(`renderable_tablesOf`), and set exactly these settings (`setsExactly_tablesOf`). All settings in
all groups are what is written of a configuration as a whole, if all its paths are texts
(`Configuration.toTables_eq_cases`).
-/

namespace LiquidityClient

/-! ## Settings and their values -/

/-- The groups of settings. -/
inductive Group where
  | provider
  | node
  | swap
  | rebalance
  | logging
  deriving DecidableEq

/-- The name of the table of a group. -/
def Group.name : Group → String
  | .provider => "lsp"
  | .node => "lnd"
  | .swap => "swap"
  | .rebalance => "rebalance"
  | .logging => "logging"

/-- The settings. -/
inductive Setting where
  | providerAddress
  | providerToken
  | providerCertificate
  | providerConnectTimeout
  | providerCallTimeout
  | nodeAddress
  | nodeCertificate
  | nodeMacaroon
  | nodeConnectTimeout
  | nodeCallTimeout
  | csvHeight
  | feeRate
  | settleDelay
  | closeRetryDelay
  | closeFeeRate
  | logLevel
  | logFormat
  deriving DecidableEq

namespace Setting

/-- The group in which a setting stands. -/
def group : Setting → Group
  | providerAddress | providerToken | providerCertificate | providerConnectTimeout
  | providerCallTimeout => .provider
  | nodeAddress | nodeCertificate | nodeMacaroon | nodeConnectTimeout | nodeCallTimeout => .node
  | csvHeight | feeRate => .swap
  | settleDelay | closeRetryDelay | closeFeeRate => .rebalance
  | logLevel | logFormat => .logging

/-- The name of a setting in the table of its group. -/
def name : Setting → String
  | providerAddress => "address"
  | providerToken => "token"
  | providerCertificate => "cert_path"
  | providerConnectTimeout => "connect_timeout_secs"
  | providerCallTimeout => "call_timeout_secs"
  | nodeAddress => "rest_address"
  | nodeCertificate => "cert_path"
  | nodeMacaroon => "macaroon_path"
  | nodeConnectTimeout => "connect_timeout_secs"
  | nodeCallTimeout => "call_timeout_secs"
  | csvHeight => "csv_height"
  | feeRate => "fee_rate_sat_per_kw"
  | settleDelay => "settle_delay_ms"
  | closeRetryDelay => "close_retry_delay_ms"
  | closeFeeRate => "close_sat_per_vbyte"
  | logLevel => "level"
  | logFormat => "format"

/-- The value of a setting. -/
inductive Value where
  | text (content : String)
  /-- A path, which may be absent. -/
  | path (content : Option NativeText)
  | number (n : Nat)
  deriving DecidableEq, Repr

/-- What is written of a value : nothing if it is absent, or a path that is no text. -/
def Value.toAtom? : Value → Option Toml.Atom
  | .text content => some (.text content)
  | .path content => (content.bind NativeText.text?).map .text
  | .number n => some (.integer (Int64.ofNat n))

end Setting

/-- The settings of a group, in the order in which they are written. -/
def Group.settings : Group → List Setting
  | .provider =>
    [.providerAddress, .providerToken, .providerCertificate, .providerConnectTimeout,
      .providerCallTimeout]
  | .node =>
    [.nodeAddress, .nodeCertificate, .nodeMacaroon, .nodeConnectTimeout, .nodeCallTimeout]
  | .swap => [.csvHeight, .feeRate]
  | .rebalance => [.settleDelay, .closeRetryDelay, .closeFeeRate]
  | .logging => [.logLevel, .logFormat]

/-- The groups, in the order in which they are written. -/
def Group.all : List Group :=
  [.provider, .node, .swap, .rebalance, .logging]

theorem Group.mem_all (g : Group) : g ∈ all := by
  cases g <;> decide

instance : Fintype Group where
  elems := Group.all.toFinset
  complete g := List.mem_toFinset.2 g.mem_all

theorem Group.mem_settings_iff {g : Group} {f : Setting} : f ∈ g.settings ↔ f.group = g := by
  cases g <;> cases f <;> decide

instance : Fintype Setting where
  elems := (Group.all.flatMap Group.settings).toFinset
  complete f :=
    List.mem_toFinset.2
      (List.mem_flatMap.2 ⟨f.group, f.group.mem_all, Group.mem_settings_iff.2 rfl⟩)

namespace Configuration

/-- The value of a setting in a configuration. -/
def value (c : Configuration) : Setting → Setting.Value
  | .providerAddress => .text c.provider.address
  | .providerToken => .text c.provider.token
  | .providerCertificate => .path c.provider.certificatePath
  | .providerConnectTimeout => .number c.provider.connectTimeoutSecs.toNat
  | .providerCallTimeout => .number c.provider.callTimeoutSecs.toNat
  | .nodeAddress => .text c.node.restAddress
  | .nodeCertificate => .path c.node.certificatePath
  | .nodeMacaroon => .path c.node.macaroonPath
  | .nodeConnectTimeout => .number c.node.connectTimeoutSecs.toNat
  | .nodeCallTimeout => .number c.node.callTimeoutSecs.toNat
  | .csvHeight => .number c.swap.csvHeight.toNat
  | .feeRate => .number c.swap.feeRateSatPerKw.toNat
  | .settleDelay => .number c.rebalance.settleDelayMs.toNat
  | .closeRetryDelay => .number c.rebalance.closeRetryDelayMs.toNat
  | .closeFeeRate => .number c.rebalance.closeSatPerVbyte.toNat
  | .logLevel => .text c.logging.level
  | .logFormat => .text c.logging.format

/-- Can all numbers of the configuration be written as signed words? -/
def NumbersFit (c : Configuration) : Prop :=
  ∀ f n, c.value f = .number n → n < Word.half64

/-- Are all paths among the settings in a set texts? -/
def TextPaths (S : Finset Setting) (c : Configuration) : Prop :=
  ∀ f ∈ S, ∀ path, c.value f = .path (some path) → ∃ text, path.text? = some text

/-- The configuration that has its values from one configuration for the settings in a set, and
from another one for all others. -/
def override (S : Finset Setting) (c d : Configuration) : Configuration where
  provider :=
    { address := if .providerAddress ∈ S then c.provider.address else d.provider.address
      token := if .providerToken ∈ S then c.provider.token else d.provider.token
      certificatePath :=
        if .providerCertificate ∈ S then c.provider.certificatePath
        else d.provider.certificatePath
      connectTimeoutSecs :=
        if .providerConnectTimeout ∈ S then c.provider.connectTimeoutSecs
        else d.provider.connectTimeoutSecs
      callTimeoutSecs :=
        if .providerCallTimeout ∈ S then c.provider.callTimeoutSecs
        else d.provider.callTimeoutSecs }
  node :=
    { restAddress := if .nodeAddress ∈ S then c.node.restAddress else d.node.restAddress
      certificatePath :=
        if .nodeCertificate ∈ S then c.node.certificatePath else d.node.certificatePath
      macaroonPath := if .nodeMacaroon ∈ S then c.node.macaroonPath else d.node.macaroonPath
      connectTimeoutSecs :=
        if .nodeConnectTimeout ∈ S then c.node.connectTimeoutSecs else d.node.connectTimeoutSecs
      callTimeoutSecs :=
        if .nodeCallTimeout ∈ S then c.node.callTimeoutSecs else d.node.callTimeoutSecs }
  swap :=
    { csvHeight := if .csvHeight ∈ S then c.swap.csvHeight else d.swap.csvHeight
      feeRateSatPerKw := if .feeRate ∈ S then c.swap.feeRateSatPerKw else d.swap.feeRateSatPerKw }
  rebalance :=
    { settleDelayMs :=
        if .settleDelay ∈ S then c.rebalance.settleDelayMs else d.rebalance.settleDelayMs
      closeRetryDelayMs :=
        if .closeRetryDelay ∈ S then c.rebalance.closeRetryDelayMs
        else d.rebalance.closeRetryDelayMs
      closeSatPerVbyte :=
        if .closeFeeRate ∈ S then c.rebalance.closeSatPerVbyte
        else d.rebalance.closeSatPerVbyte }
  logging :=
    { level := if .logLevel ∈ S then c.logging.level else d.logging.level
      format := if .logFormat ∈ S then c.logging.format else d.logging.format }

theorem value_override (S : Finset Setting) (c d : Configuration) (f : Setting) :
    (override S c d).value f = if f ∈ S then c.value f else d.value f := by
  cases f <;> (simp only [value, override]; split <;> rfl)

/-- A configuration is nothing but the values of its settings. -/
theorem value_injective {c d : Configuration} (h : ∀ f, c.value f = d.value f) : c = d := by
  have htext {f a b} (hc : c.value f = .text a) (hd : d.value f = .text b) : a = b :=
    Setting.Value.text.inj (hc.symm.trans ((h f).trans hd))
  have hpath {f a b} (hc : c.value f = .path a) (hd : d.value f = .path b) : a = b :=
    Setting.Value.path.inj (hc.symm.trans ((h f).trans hd))
  have hword {f} {a b : UInt64} (hc : c.value f = .number a.toNat)
      (hd : d.value f = .number b.toNat) : a = b :=
    UInt64.toNat.inj (Setting.Value.number.inj (hc.symm.trans ((h f).trans hd)))
  have hheight : c.swap.csvHeight = d.swap.csvHeight :=
    UInt32.toNat.inj (Setting.Value.number.inj (h .csvHeight))
  obtain ⟨⟨_, _, _, _, _⟩, ⟨_, _, _, _, _⟩, ⟨_, _⟩, ⟨_, _, _⟩, ⟨_, _⟩⟩ := c
  obtain ⟨⟨_, _, _, _, _⟩, ⟨_, _, _, _, _⟩, ⟨_, _⟩, ⟨_, _, _⟩, ⟨_, _⟩⟩ := d
  simp only [mk.injEq, ProviderSettings.mk.injEq, NodeSettings.mk.injEq, SwapSettings.mk.injEq,
    RebalanceSettings.mk.injEq, LogSettings.mk.injEq]
  exact
    ⟨⟨@htext .providerAddress _ _ rfl rfl, @htext .providerToken _ _ rfl rfl,
        @hpath .providerCertificate _ _ rfl rfl, @hword .providerConnectTimeout _ _ rfl rfl,
        @hword .providerCallTimeout _ _ rfl rfl⟩,
      ⟨@htext .nodeAddress _ _ rfl rfl, @hpath .nodeCertificate _ _ rfl rfl,
        @hpath .nodeMacaroon _ _ rfl rfl, @hword .nodeConnectTimeout _ _ rfl rfl,
        @hword .nodeCallTimeout _ _ rfl rfl⟩,
      ⟨hheight, @hword .feeRate _ _ rfl rfl⟩,
      ⟨@hword .settleDelay _ _ rfl rfl, @hword .closeRetryDelay _ _ rfl rfl,
        @hword .closeFeeRate _ _ rfl rfl⟩,
      ⟨@htext .logLevel _ _ rfl rfl, @htext .logFormat _ _ rfl rfl⟩⟩

theorem override_univ (c d : Configuration) : override Finset.univ c d = c :=
  value_injective fun f => by rw [value_override, if_pos (Finset.mem_univ f)]

end Configuration

/-! ## Documents that set some settings -/

/-- What is written of a setting, if it is in the set. -/
def Setting.written? (S : Finset Setting) (c : Configuration) (f : Setting) : Option Toml.Atom :=
  if f ∈ S then (c.value f).toAtom? else none

/-- The entries of the table of this name in a document; there are none if it has no such table. -/
def entriesAt (document : Toml.Table) (name : String) : Toml.Table :=
  match document.lookup name with
  | some (.table entries) => entries
  | _ => []

/-- The document sets exactly the settings in a set, to their values in a configuration : the
groups are tables or absent, and in each of them stand the settings that are in the set. Other
names stand where they will. -/
structure SetsExactly (S : Finset Setting) (c : Configuration) (document : Toml.Table) :
    Prop where
  textPaths : c.TextPaths S
  exists_table : ∀ (g : Group) value, document.lookup g.name = some value →
    ∃ entries, value = .table entries
  lookup : ∀ f : Setting, (entriesAt document f.group.name).lookup f.name =
    (f.written? S c).map Toml.Atom.toValue

/-- The section has the entries of the settings in the set, of those in its group. -/
def Section.Gives (S : Finset Setting) (c : Configuration) (g : Group) (s : Section) : Prop :=
  ∀ position (f : Setting), f.group = g →
    s.get? position f.name = (f.written? S c).map Toml.Atom.toValue

section Reading

variable {S : Finset Setting} {c : Configuration} {document : Toml.Table} {s : Section}

namespace Section

variable {f : Setting} {position : Nat}

theorem text?_written {content default : String} (hvalue : c.value f = .text content)
    (h : s.Gives S c f.group) :
    s.text? position f.name default = some (if f ∈ S then content else default) := by
  rw [text?, h position f rfl, Setting.written?, hvalue]
  split_ifs <;> rfl

theorem path?_written {content : Option NativeText} (hS : c.TextPaths S)
    (hvalue : c.value f = .path content) (h : s.Gives S c f.group) :
    s.path? position f.name = some (if f ∈ S then content else none) := by
  rw [path?, h position f rfl, Setting.written?, hvalue]
  split_ifs with hf
  · cases content with
    | none => rfl
    | some path =>
      obtain ⟨text, htext⟩ := hS f hf path hvalue
      simp [Setting.Value.toAtom?, htext, Toml.Atom.toValue, NativeText.ofString_of_text? htext]
  · rfl

theorem natural?_written {n bound default : Nat} (hc : c.NumbersFit)
    (hvalue : c.value f = .number n) (hbound : n ≤ bound) (h : s.Gives S c f.group) :
    s.natural? position f.name bound default = some (if f ∈ S then n else default) := by
  rw [natural?, h position f rfl, Setting.written?, hvalue]
  split_ifs
  · have hn : (Int64.ofNat n).toInt = n := Int64.toInt_ofNat_of_lt (hc f n hvalue)
    simp [Setting.Value.toAtom?, Toml.Atom.toValue, hn, hbound]
  · rfl

theorem word64?_written {n default : UInt64} (hc : c.NumbersFit)
    (hvalue : c.value f = .number n.toNat) (h : s.Gives S c f.group) :
    s.word64? position f.name default = some (if f ∈ S then n else default) := by
  rw [word64?, natural?_written hc hvalue (Nat.le_sub_one_of_lt n.toNat_lt_size) h]
  split_ifs <;> simp

theorem word32?_written {n default : UInt32} (hc : c.NumbersFit)
    (hvalue : c.value f = .number n.toNat) (h : s.Gives S c f.group) :
    s.word32? position f.name default = some (if f ∈ S then n else default) := by
  rw [word32?, natural?_written hc hvalue (Nat.le_sub_one_of_lt n.toNat_lt_size) h]
  split_ifs <;> simp

/-- The settings of a group, if a section without entries gives the standard ones. -/
theorem settings?_written {α : Type} {standard settings : α} {ofSection? : Section → Option α}
    (hempty : ofSection? (named []) = some standard) (h : SetsExactly S c document) (g : Group)
    (hgives : ∀ s : Section, s.Gives S c g → ofSection? s = some settings) :
    settings? g.name standard ofSection? document = some settings := by
  have hnamed : (named (entriesAt document g.name)).Gives S c g := by
    rintro position f rfl
    exact h.lookup f
  rw [← hgives _ hnamed]
  unfold settings? entriesAt
  cases hvalue : document.lookup g.name with
  | none => exact hempty.symm
  | some value =>
    obtain ⟨entries, rfl⟩ := h.exists_table g value hvalue
    rfl

end Section

theorem ProviderSettings.ofSection?_empty : ofSection? (.named []) = some {} := rfl

theorem ProviderSettings.ofSection?_written (hc : c.NumbersFit) (hS : c.TextPaths S)
    (h : s.Gives S c .provider) :
    ofSection? s = some (c.override S {}).provider := by
  have haddress : s.text? 0 "address" Standard.providerAddress = some _ :=
    Section.text?_written (f := .providerAddress) rfl h
  have htoken : s.text? 1 "token" "" = some _ :=
    Section.text?_written (f := .providerToken) rfl h
  have hcertificate : s.path? 2 "cert_path" = some _ :=
    Section.path?_written (f := .providerCertificate) hS rfl h
  have hconnect : s.word64? 3 "connect_timeout_secs" Standard.connectTimeoutSecs = some _ :=
    Section.word64?_written (f := .providerConnectTimeout) hc rfl h
  have hcall : s.word64? 4 "call_timeout_secs" Standard.callTimeoutSecs = some _ :=
    Section.word64?_written (f := .providerCallTimeout) hc rfl h
  rw [ofSection?, haddress, htoken, hcertificate, hconnect, hcall]
  rfl

theorem NodeSettings.ofSection?_empty : ofSection? (.named []) = some {} := rfl

theorem NodeSettings.ofSection?_written (hc : c.NumbersFit) (hS : c.TextPaths S)
    (h : s.Gives S c .node) :
    ofSection? s = some (c.override S {}).node := by
  have haddress : s.text? 0 "rest_address" Standard.nodeAddress = some _ :=
    Section.text?_written (f := .nodeAddress) rfl h
  have hcertificate : s.path? 1 "cert_path" = some _ :=
    Section.path?_written (f := .nodeCertificate) hS rfl h
  have hmacaroon : s.path? 2 "macaroon_path" = some _ :=
    Section.path?_written (f := .nodeMacaroon) hS rfl h
  have hconnect : s.word64? 3 "connect_timeout_secs" Standard.connectTimeoutSecs = some _ :=
    Section.word64?_written (f := .nodeConnectTimeout) hc rfl h
  have hcall : s.word64? 4 "call_timeout_secs" Standard.callTimeoutSecs = some _ :=
    Section.word64?_written (f := .nodeCallTimeout) hc rfl h
  rw [ofSection?, haddress, hcertificate, hmacaroon, hconnect, hcall]
  rfl

theorem SwapSettings.ofSection?_empty : ofSection? (.named []) = some {} := rfl

theorem SwapSettings.ofSection?_written (hc : c.NumbersFit) (h : s.Gives S c .swap) :
    ofSection? s = some (c.override S {}).swap := by
  have hheight : s.word32? 0 "csv_height" Standard.csvHeight = some _ :=
    Section.word32?_written (f := .csvHeight) hc rfl h
  have hrate : s.word64? 1 "fee_rate_sat_per_kw" Standard.feeRateSatPerKw = some _ :=
    Section.word64?_written (f := .feeRate) hc rfl h
  rw [ofSection?, hheight, hrate]
  rfl

theorem RebalanceSettings.ofSection?_empty : ofSection? (.named []) = some {} := rfl

theorem RebalanceSettings.ofSection?_written (hc : c.NumbersFit) (h : s.Gives S c .rebalance) :
    ofSection? s = some (c.override S {}).rebalance := by
  have hsettle : s.word64? 0 "settle_delay_ms" Standard.settleDelayMs = some _ :=
    Section.word64?_written (f := .settleDelay) hc rfl h
  have hretry : s.word64? 1 "close_retry_delay_ms" Standard.closeRetryDelayMs = some _ :=
    Section.word64?_written (f := .closeRetryDelay) hc rfl h
  have hrate : s.word64? 2 "close_sat_per_vbyte" Standard.closeSatPerVbyte = some _ :=
    Section.word64?_written (f := .closeFeeRate) hc rfl h
  rw [ofSection?, hsettle, hretry, hrate]
  rfl

theorem LogSettings.ofSection?_empty : ofSection? (.named []) = some {} := rfl

theorem LogSettings.ofSection?_written (h : s.Gives S c .logging) :
    ofSection? s = some (c.override S {}).logging := by
  have hlevel : s.text? 0 "level" Standard.logLevel = some _ :=
    Section.text?_written (f := .logLevel) rfl h
  have hformat : s.text? 1 "format" Standard.logFormat = some _ :=
    Section.text?_written (f := .logFormat) rfl h
  rw [ofSection?, hlevel, hformat]
  rfl

/-- A document that sets some settings of a configuration gives these, and the standard values of
all others. -/
theorem Configuration.ofTable?_of_setsExactly (hc : c.NumbersFit) (h : SetsExactly S c document) :
    ofTable? document = some (c.override S {}) := by
  have hprovider : Section.settings? "lsp" {} ProviderSettings.ofSection? document = some _ :=
    Section.settings?_written ProviderSettings.ofSection?_empty h .provider fun _ =>
      ProviderSettings.ofSection?_written hc h.textPaths
  have hnode : Section.settings? "lnd" {} NodeSettings.ofSection? document = some _ :=
    Section.settings?_written NodeSettings.ofSection?_empty h .node fun _ =>
      NodeSettings.ofSection?_written hc h.textPaths
  have hswap : Section.settings? "swap" {} SwapSettings.ofSection? document = some _ :=
    Section.settings?_written SwapSettings.ofSection?_empty h .swap fun _ =>
      SwapSettings.ofSection?_written hc
  have hrebalance :
      Section.settings? "rebalance" {} RebalanceSettings.ofSection? document = some _ :=
    Section.settings?_written RebalanceSettings.ofSection?_empty h .rebalance fun _ =>
      RebalanceSettings.ofSection?_written hc
  have hlogging : Section.settings? "logging" {} LogSettings.ofSection? document = some _ :=
    Section.settings?_written LogSettings.ofSection?_empty h .logging fun _ =>
      LogSettings.ofSection?_written
  rw [ofTable?, hprovider, hnode, hswap, hrebalance, hlogging]
  rfl

end Reading

/-! ## Documents that are written -/

section Pairs

variable {α β γ : Type} {name : α → String} {value? : α → Option β}

/-- The values of the items that have one, under their names. -/
def pairs (name : α → String) (value? : α → Option β) (items : List α) : List (String × β) :=
  items.filterMap fun item => (value? item).map (name item, ·)

theorem pairs_nil : pairs name value? [] = [] := rfl

theorem pairs_cons (item : α) (items : List α) :
    pairs name value? (item :: items) =
      ((value? item).map (name item, ·)).toList ++ pairs name value? items := by
  cases hvalue : value? item <;> simp [pairs, hvalue]

theorem exists_of_mem_pairs {items : List α} {entry : String × β}
    (h : entry ∈ pairs name value? items) :
    ∃ item ∈ items, value? item = some entry.2 ∧ name item = entry.1 := by
  obtain ⟨item, hitem, hentry⟩ := List.mem_filterMap.1 h
  obtain ⟨value, hvalue, rfl⟩ := Option.map_eq_some_iff.1 hentry
  exact ⟨item, hitem, hvalue, rfl⟩

theorem map_fst_pairs_sublist (items : List α) :
    List.Sublist ((pairs name value? items).map Prod.fst) (items.map name) := by
  induction items with
  | nil => exact List.Sublist.slnil
  | cons item items ih =>
    rw [pairs_cons, List.map_cons]
    cases value? item with
    | none => exact ih.cons _
    | some value => exact ih.cons_cons _

/-- Where the names of the items differ, each name has the value of its item. -/
theorem lookup_pairs {items : List α} (hnodup : (items.map name).Nodup) {item : α}
    (hitem : item ∈ items) : (pairs name value? items).lookup (name item) = value? item := by
  induction items with
  | nil => cases hitem
  | cons first items ih =>
    obtain ⟨hnew, hnodup⟩ := List.nodup_cons.1 hnodup
    rw [pairs_cons, List.lookup_append]
    rcases List.mem_cons.1 hitem with rfl | hitem
    · cases value? item with
      | none =>
        exact Toml.lookup_eq_none_of_notMem fun hmem =>
          hnew ((map_fst_pairs_sublist items).subset hmem)
      | some value => simp
    · have hne : (name item == name first) = false :=
        beq_false_of_ne fun heq => hnew (heq ▸ List.mem_map_of_mem hitem)
      rw [ih hnodup hitem]
      cases value? first with
      | none => rfl
      | some value => simp [List.lookup_cons, hne]

theorem lookup_map_snd (g : β → γ) (entries : List (String × β)) (key : String) :
    (entries.map fun entry => (entry.1, g entry.2)).lookup key = (entries.lookup key).map g := by
  induction entries with
  | nil => rfl
  | cons entry entries ih =>
    rw [List.map_cons, List.lookup_cons, List.lookup_cons]
    split <;> simp [ih]

end Pairs

/-- The entries of a group for the settings in a set. -/
def Group.entries (S : Finset Setting) (c : Configuration) (g : Group) :
    List (String × Toml.Atom) :=
  pairs Setting.name (Setting.written? S c) g.settings

/-- The tables of some groups, with the entries of the settings in a set. -/
def tablesOf (S : Finset Setting) (groups : Finset Group) (c : Configuration) :
    List Toml.WrittenTable :=
  pairs Group.name (fun g => if g ∈ groups then some (g.entries S c) else none) Group.all

theorem Group.nodup_names : (Group.all.map Group.name).Nodup := by decide

theorem Group.nodup_settings (g : Group) : (g.settings.map Setting.name).Nodup := by
  cases g <;> decide

theorem Group.isBareName (g : Group) : Toml.IsBareName g.name := by
  cases g <;> decide

theorem Setting.isBareName (f : Setting) : Toml.IsBareName f.name := by
  cases f <;> decide

variable {S : Finset Setting} {groups : Finset Group} {c : Configuration}

/-- A table that is written is that of a group. -/
theorem exists_of_mem_tablesOf {table : Toml.WrittenTable} (h : table ∈ tablesOf S groups c) :
    ∃ g : Group, table = (g.name, g.entries S c) := by
  obtain ⟨g, -, hentries, hname⟩ := exists_of_mem_pairs h
  rw [Option.ite_none_right_eq_some] at hentries
  exact ⟨g, Prod.ext hname.symm (Option.some.inj hentries.2).symm⟩

theorem renderable_tablesOf (S : Finset Setting) (groups : Finset Group) (c : Configuration) :
    Toml.Renderable (tablesOf S groups c) where
  isBareName table htable := by
    obtain ⟨g, rfl⟩ := exists_of_mem_tablesOf htable
    exact g.isBareName
  nodup := Group.nodup_names.sublist (map_fst_pairs_sublist _)
  isBareName_entry table htable entry hentry := by
    obtain ⟨g, rfl⟩ := exists_of_mem_tablesOf htable
    obtain ⟨f, -, -, hname⟩ := exists_of_mem_pairs hentry
    exact hname ▸ f.isBareName
  nodup_entries table htable := by
    obtain ⟨g, rfl⟩ := exists_of_mem_tablesOf htable
    exact g.nodup_settings.sublist (map_fst_pairs_sublist _)

theorem lookup_tableOf (g : Group) :
    (Toml.tableOf (tablesOf S groups c)).lookup g.name =
      if g ∈ groups then
        some (.table ((g.entries S c).map fun entry => (entry.1, entry.2.toValue)))
      else none := by
  refine (lookup_map_snd (fun entries : List (String × Toml.Atom) =>
    Toml.Value.table (entries.map fun entry => (entry.1, entry.2.toValue))) _ _).trans ?_
  rw [tablesOf, lookup_pairs Group.nodup_names g.mem_all]
  split_ifs <;> rfl

/-- What is written of a configuration sets the settings in the set, if their groups are written. -/
theorem setsExactly_tablesOf (hS : c.TextPaths S) (h : ∀ f ∈ S, f.group ∈ groups) :
    SetsExactly S c (Toml.tableOf (tablesOf S groups c)) where
  textPaths := hS
  exists_table g value hvalue := by
    rw [lookup_tableOf, Option.ite_none_right_eq_some] at hvalue
    exact ⟨_, (Option.some.inj hvalue.2).symm⟩
  lookup f := by
    rw [entriesAt, lookup_tableOf]
    by_cases hgroup : f.group ∈ groups
    · rw [if_pos hgroup]
      dsimp only
      rw [lookup_map_snd, Group.entries,
        lookup_pairs f.group.nodup_settings (Group.mem_settings_iff.2 rfl)]
    · have hf : f ∉ S := fun hf => hgroup (h f hf)
      rw [if_neg hgroup, Setting.written?, if_neg hf]
      rfl

namespace Configuration

theorem atom_eq (hc : c.NumbersFit) {f : Setting} {n : Nat} (hn : c.value f = .number n) :
    atom n = .ok (.integer (Int64.ofNat n)) :=
  if_pos (hc f n hn)

/-- A path is written if it is absent or a text. -/
theorem pathEntry_eq_cases (name : String) (content : Option NativeText) :
    ((∀ path, content = some path → ∃ text, path.text? = some text) ∧
      pathEntry name content =
        .ok (((content.bind NativeText.text?).map Toml.Atom.text).map (name, ·)).toList) ∨
    ∃ path, content = some path ∧ (¬∃ text, path.text? = some text) ∧
      pathEntry name content = .error .path := by
  cases content with
  | none =>
    refine Or.inl ⟨?_, rfl⟩
    rintro _ ⟨⟩
  | some path =>
    cases htext : path.text? with
    | none => exact Or.inr ⟨path, rfl, by simp [htext], by simp [pathEntry, htext]⟩
    | some text =>
      refine Or.inl ⟨?_, by simp [pathEntry, htext]⟩
      rintro _ ⟨⟩
      exact ⟨text, htext⟩

/-- Let all numbers fit. All settings in all groups are written if all paths are texts; otherwise a
path is the error. -/
theorem toTables_eq_cases (hc : c.NumbersFit) :
    (c.TextPaths Finset.univ ∧ c.toTables = .ok (tablesOf Finset.univ Finset.univ c)) ∨
      ¬c.TextPaths Finset.univ ∧ c.toTables = .error .path := by
  have hfails (f : Setting) {path : NativeText} (hvalue : c.value f = .path (some path))
      (hpath : ¬∃ text, path.text? = some text) : ¬c.TextPaths Finset.univ :=
    fun h => hpath (h f (Finset.mem_univ f) path hvalue)
  rw [toTables, atom_eq (f := .providerConnectTimeout) hc rfl,
    atom_eq (f := .providerCallTimeout) hc rfl, atom_eq (f := .nodeConnectTimeout) hc rfl,
    atom_eq (f := .nodeCallTimeout) hc rfl, atom_eq (f := .csvHeight) hc rfl,
    atom_eq (f := .feeRate) hc rfl, atom_eq (f := .settleDelay) hc rfl,
    atom_eq (f := .closeRetryDelay) hc rfl, atom_eq (f := .closeFeeRate) hc rfl]
  -- The paths in the order in which they are written; the first that is no text is the error.
  obtain ⟨hprovider, heq⟩ | ⟨path, hvalue, hpath, heq⟩ :=
    pathEntry_eq_cases "cert_path" c.provider.certificatePath
  · obtain ⟨hnode, heq'⟩ | ⟨path, hvalue, hpath, heq'⟩ :=
      pathEntry_eq_cases "cert_path" c.node.certificatePath
    · obtain ⟨hmacaroon, heq''⟩ | ⟨path, hvalue, hpath, heq''⟩ :=
        pathEntry_eq_cases "macaroon_path" c.node.macaroonPath
      · left
        refine ⟨fun f _ path hvalue => ?_, ?_⟩
        · cases f <;> simp only [value, reduceCtorEq, Setting.Value.path.injEq] at hvalue
          · exact hprovider path hvalue
          · exact hnode path hvalue
          · exact hmacaroon path hvalue
        · rw [heq, heq', heq'']
          simp [tablesOf, Group.entries, pairs_cons, pairs_nil, Group.all, Group.settings,
            Group.name, Setting.name, Setting.written?, value, Setting.Value.toAtom?, bind,
            Except.bind, pure, Except.pure]
      · right
        rw [heq, heq', heq'']
        exact ⟨hfails .nodeMacaroon (congrArg _ hvalue) hpath, rfl⟩
    · right
      rw [heq, heq']
      exact ⟨hfails .nodeCertificate (congrArg _ hvalue) hpath, rfl⟩
  · right
    rw [heq]
    exact ⟨hfails .providerCertificate (congrArg _ hvalue) hpath, rfl⟩

end Configuration

end LiquidityClient
