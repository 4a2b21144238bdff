/-
The options of the Elasticsearch pilot: what the arguments and the environment
of its container mean to its flags, and the environment of the process it starts.
The plugins are joined with commas on one side and read as comma separated
values on the other.
-/
import Navigator.Accepted
import Navigator.Base.Flags
import Navigator.Elasticsearch.Resources

namespace Navigator

open ControlLoop

namespace Elasticsearch

/-- How Kubernetes replaces references to variables, in the values of variables and in
the arguments of a container. -/
structure Expansion where
  expand : (String → Option String) → String → String
  /-- Only a dollar sign begins a reference or an escape. -/
  plain : ∀ env text, '$' ∉ text.toList → expand env text = text
  reference : ∀ env text name value, '$' ∉ text.toList → ')' ∉ name.toList →
    env name = some value → expand env (text ++ "$(" ++ name ++ ")") = text ++ value
  /-- Characters that are in no variable, and do not mark references, stay. -/
  keeps : ∀ env text (p : Char → Bool), (∀ mark ∈ ['$', '(', ')'], p mark = false) →
    (∀ name value, env name = some value → ∀ c ∈ name.toList ++ value.toList, p c = false) →
    (expand env text).toList.filter p = text.toList.filter p

/-- No variable has a quote or a line break, in its name or in its value. -/
def PlainVariables (env : String → Option String) : Prop :=
  ∀ name value, env name = some value → ∀ c ∈ name.toList ++ value.toList, Csv.special c = false

/-- What a container finds on its node: the expansion, the variables of the services,
which are names, ports and addresses, and the fields of its pod. -/
structure Kubelet where
  expansion : Expansion
  services : String → Option String
  services_plain : PlainVariables services
  downward : String → String

namespace Kubelet

/-- One more variable.  Its value may refer to the variables before it and to those of
the services. -/
def define (k : Kubelet) (defined : String → Option String) (var : EnvVar) (name : String) :
    Option String :=
  if name = var.name then
    some (match var.source with
      | .value text => k.expansion.expand defined text
      | .fieldRef fieldPath => k.downward fieldPath)
  else defined name

/-- The variables of a container. -/
def environment (k : Kubelet) (env : List EnvVar) : String → Option String :=
  env.foldl k.define k.services

def value (k : Kubelet) (env : List EnvVar) (name : String) : String :=
  (k.environment env name).getD ""

/-- Variables that are given by texts without quotes and line breaks have none. -/
theorem environment_plain (k : Kubelet) {env : List EnvVar}
    (h : ∀ var ∈ env, ∃ text, var.source = .value text ∧
      ∀ c ∈ var.name.toList ++ text.toList, Csv.special c = false) :
    PlainVariables (k.environment env) := by
  have hfold : ∀ defined, PlainVariables defined → PlainVariables (env.foldl k.define defined) := by
    induction env with
    | nil => exact fun _ hdefined => hdefined
    | cons var rest ih =>
        obtain ⟨⟨text, hsource, hplain⟩, hrest⟩ := List.forall_mem_cons.mp h
        intro defined hdefined
        refine ih hrest _ ?_
        intro name value hvalue c hc
        simp only [define, hsource] at hvalue
        split at hvalue
        · rename_i hname
          obtain rfl := Option.some.inj hvalue
          rw [hname] at hc
          rcases List.mem_append.mp hc with hc | hc
          · exact hplain c (List.mem_append_left _ hc)
          · -- what the expansion leaves of such characters is what the text has
            have hkeeps := k.expansion.keeps defined text Csv.special (by simp [Csv.special]) hdefined
            by_contra hspecial
            have hmem : c ∈ (k.expansion.expand defined text).toList.filter Csv.special :=
              List.mem_filter.mpr ⟨hc, by simpa using hspecial⟩
            rw [hkeeps] at hmem
            obtain ⟨hc, hspecial⟩ := List.mem_filter.mp hmem
            rw [hplain c (List.mem_append_right _ hc)] at hspecial
            cases hspecial
        · exact hdefined name value hvalue c hc
  exact hfold k.services k.services_plain

end Kubelet

/-- The arguments that the pilot is started with. -/
def pilotArgs (k : Kubelet) (container : Container) : List String :=
  container.args.map (k.expansion.expand (k.environment container.env))

/-- `ElasticsearchOptions.AddFlags`. -/
def elasticsearchFlags : FlagSet :=
  [⟨"elasticsearch-master-url", .string ""⟩,
   ⟨"elasticsearch-binary", .string "elasticsearch"⟩,
   ⟨"elasticsearch-plugin-binary", .string "elasticsearch-plugin"⟩,
   ⟨"elasticsearch-config-dir", .string "/usr/share/elasticsearch/config"⟩,
   ⟨"elasticsearch-roles", .stringSlice [] false⟩,
   ⟨"elasticsearch-plugins", .stringSlice [] false⟩]

/-- `Options.AddFlags` of the generic pilot. -/
def genericPilotFlags : FlagSet :=
  [⟨"pilot-name", .string ""⟩, ⟨"pilot-namespace", .string ""⟩,
   ⟨"leader-election-config-map", .string ""⟩]

/-- The flags of the pilot, with those of the logger that its arguments use. -/
def pilotFlags : FlagSet :=
  elasticsearchFlags ++ genericPilotFlags ++
    [⟨"kubeconfig", .string ""⟩, ⟨"master", .string ""⟩, ⟨"config-dir", .string "/etc/pilot"⟩,
     ⟨"v", .int 0⟩, ⟨"logtostderr", .bool false⟩]

structure ElasticsearchOptions where
  masterURL : String
  roles : List String
  plugins : List String
deriving DecidableEq

def getString (flags : FlagSet) (name : String) : String :=
  match flags.lookup name with
  | some (.string value) => value
  | _ => ""

def getStringSlice (flags : FlagSet) (name : String) : List String :=
  match flags.lookup name with
  | some (.stringSlice value _) => value
  | _ => []

/-- The options that the flags write to. -/
def elasticsearchOptions (flags : FlagSet) : ElasticsearchOptions where
  masterURL := getString flags "elasticsearch-master-url"
  roles := getStringSlice flags "elasticsearch-roles"
  plugins := getStringSlice flags "elasticsearch-plugins"

/-- The options of the pilot in a container. -/
def parseOptions (k : Kubelet) (container : Container) :
    Except FlagError ElasticsearchOptions := do
  let flags ← pilotFlags.parseArgs (pilotArgs k container)
  pure (elasticsearchOptions flags)

structure EsEnv where
  nodeData : Bool := false
  nodeIngest : Bool := false
  nodeMaster : Bool := false
deriving DecidableEq

/-- The loop body of `env`. -/
def EsEnv.addRole (e : EsEnv) (role : String) : EsEnv :=
  if role = "data" then { e with nodeData := true }
  else if role = "ingest" then { e with nodeIngest := true }
  else if role = "master" then { e with nodeMaster := true }
  else e

/-- `env`. -/
def env (o : ElasticsearchOptions) : EsEnv := o.roles.foldl EsEnv.addRole {}

/-- `%v` of a truth value. -/
def truth (b : Bool) : String := if b then "true" else "false"

/-- `Strings`: the environment of the process. -/
def EsEnv.strings (environ : List String) (e : EsEnv) : List String :=
  environ ++ ["NODE_DATA=" ++ truth e.nodeData, "NODE_INGEST=" ++ truth e.nodeIngest,
    "NODE_MASTER=" ++ truth e.nodeMaster]

section Parse

/-- An argument that gives a flag the value of a variable. -/
theorem Expansion.expand_assign (k : Expansion) {arg : String} (name var : String)
    (harg : arg = "--" ++ name ++ "=" ++ "$(" ++ var ++ ")")
    (hplain : '$' ∉ name.toList ∧ ')' ∉ var.toList) {env : String → Option String}
    {value : String} (hvalue : env var = some value) :
    k.expand env arg = "--" ++ name ++ "=" ++ value := by
  rw [harg]
  apply k.reference env _ var value _ hplain.2 hvalue
  simpa using hplain.1

variable (k : Kubelet)

/-- The values that the arguments of the container give to flags. -/
def assignments (c : Cluster) (np : NodePool) : List (String × String) :=
  let value := k.value (elasticsearchEnv c np)
  [("pilot-name", value "POD_NAME"), ("pilot-namespace", value "POD_NAMESPACE"),
   ("elasticsearch-master-url", value "CLUSTER_URL"), ("elasticsearch-roles", value "ROLES"),
   ("elasticsearch-plugins", value "PLUGINS"),
   ("leader-election-config-map", value "LEADER_ELECTION_CONFIG_MAP")]

theorem pilotArgs_elasticsearchContainer (c : Cluster) (np : NodePool) (esImage : ImageSpec) :
    pilotArgs k (elasticsearchContainer c np esImage) =
      "--v=4" :: "--logtostderr" ::
        (assignments k c np).map fun a => "--" ++ a.1 ++ "=" ++ a.2 := by
  simp only [pilotArgs, elasticsearchContainer, assignments, List.map_cons, List.map_nil,
    List.cons.injEq, and_true]
  refine ⟨k.expansion.plain _ _ (by decide), k.expansion.plain _ _ (by decide), ?_, ?_, ?_, ?_,
    ?_, ?_⟩
  · exact k.expansion.expand_assign "pilot-name" "POD_NAME" (by decide) (by decide) rfl
  · exact k.expansion.expand_assign "pilot-namespace" "POD_NAMESPACE" (by decide) (by decide) rfl
  · exact k.expansion.expand_assign "elasticsearch-master-url" "CLUSTER_URL" (by decide)
      (by decide) rfl
  · exact k.expansion.expand_assign "elasticsearch-roles" "ROLES" (by decide) (by decide) rfl
  · exact k.expansion.expand_assign "elasticsearch-plugins" "PLUGINS" (by decide) (by decide) rfl
  · exact k.expansion.expand_assign "leader-election-config-map" "LEADER_ELECTION_CONFIG_MAP"
      (by decide) (by decide) rfl

/-- The flags after the arguments of the logger. -/
def loggingFlags : FlagSet := (pilotFlags.store "v" (.int 4)).store "logtostderr" (.bool true)

theorem parseArgs_elasticsearchContainer (c : Cluster) (np : NodePool) (esImage : ImageSpec) :
    pilotFlags.parseArgs (pilotArgs k (elasticsearchContainer c np esImage)) =
      loggingFlags.setAll (assignments k c np) := by
  have hnames : ∀ a ∈ assignments k c np, FlagSet.PlainName a.1 := by
    have hplain : ∀ name ∈ ["pilot-name", "pilot-namespace", "elasticsearch-master-url",
        "elasticsearch-roles", "elasticsearch-plugins", "leader-election-config-map"],
        FlagSet.PlainName name := by decide
    exact fun a ha => hplain a.1 (List.mem_map_of_mem ha)
  have hplain : FlagSet.PlainName "v" := by decide
  have hplain' : FlagSet.PlainName "logtostderr" := by decide
  have hv : "--v=4" = "--" ++ "v" ++ "=" ++ "4" := by decide
  have hswitch : "--logtostderr" = "--" ++ "logtostderr" := by decide
  have hset : pilotFlags.set "v" "4" = .ok (pilotFlags.store "v" (.int 4)) := by decide
  have hlookup : (pilotFlags.store "v" (.int 4)).lookup "logtostderr" = some (.bool false) := by
    decide
  rw [pilotArgs_elasticsearchContainer, hv, FlagSet.parseArgs_assign_of_ok hplain hset, hswitch,
    FlagSet.parseArgs_switch hplain' hlookup, FlagSet.parseArgs_assignments hnames, loggingFlags]

/-- The flags that the arguments set, before they do. -/
theorem lookup_loggingFlags :
    (∀ name ∈ ["pilot-name", "pilot-namespace", "elasticsearch-master-url",
        "leader-election-config-map"], loggingFlags.lookup name = some (.string "")) ∧
      ∀ name ∈ ["elasticsearch-roles", "elasticsearch-plugins"],
        loggingFlags.lookup name = some (.stringSlice [] false) := by
  decide

theorem assignments_nodup (c : Cluster) (np : NodePool) :
    ((assignments k c np).map Prod.fst).Nodup := by
  have hnames : ["pilot-name", "pilot-namespace", "elasticsearch-master-url",
      "elasticsearch-roles", "elasticsearch-plugins", "leader-election-config-map"].Nodup := by
    decide
  exact hnames

variable {k} {c : Cluster} {np : NodePool} {flags : FlagSet}

/-- A string slice that was set has what its text is read as. -/
theorem readAsCSV_of_setAll (hset : loggingFlags.setAll (assignments k c np) = .ok flags)
    {name text : String} (hname : name ∈ ["elasticsearch-roles", "elasticsearch-plugins"])
    (hmem : (name, text) ∈ assignments k c np) :
    readAsCSV text = .ok (getStringSlice flags name) := by
  obtain ⟨value', ⟨value, hbefore, htext⟩, hafter⟩ :=
    (FlagSet.lookup_of_setAll hset (assignments_nodup k c np)).1 _ hmem
  rw [lookup_loggingFlags.2 name hname] at hbefore
  cases hbefore
  obtain ⟨texts, hread, rfl⟩ := FlagValue.set_stringSlice_eq_ok_iff.mp htext
  rw [hread, getStringSlice, hafter]
  rfl

theorem masterURL_of_setAll (hset : loggingFlags.setAll (assignments k c np) = .ok flags) :
    getString flags "elasticsearch-master-url" =
      k.value (elasticsearchEnv c np) "CLUSTER_URL" := by
  obtain ⟨value', ⟨value, hbefore, htext⟩, hafter⟩ :=
    (FlagSet.lookup_of_setAll hset (assignments_nodup k c np)).1
      ("elasticsearch-master-url", k.value (elasticsearchEnv c np) "CLUSTER_URL")
      (by simp [assignments])
  rw [lookup_loggingFlags.1 _ (by simp)] at hbefore
  cases hbefore
  rw [getString, hafter, FlagValue.set_string_eq_ok_iff.mp htext]

/-- The pilot starts with the options `o` exactly when the roles and the plugins are
read as those of `o`. -/
theorem parseOptions_eq_ok_iff {esImage : ImageSpec} {o : ElasticsearchOptions} :
    parseOptions k (elasticsearchContainer c np esImage) = .ok o ↔
      o.masterURL = k.value (elasticsearchEnv c np) "CLUSTER_URL" ∧
        readAsCSV (k.value (elasticsearchEnv c np) "ROLES") = .ok o.roles ∧
        readAsCSV (k.value (elasticsearchEnv c np) "PLUGINS") = .ok o.plugins := by
  have hroles : ("elasticsearch-roles", k.value (elasticsearchEnv c np) "ROLES") ∈
      assignments k c np := by simp [assignments]
  have hplugins : ("elasticsearch-plugins", k.value (elasticsearchEnv c np) "PLUGINS") ∈
      assignments k c np := by simp [assignments]
  rw [parseOptions, parseArgs_elasticsearchContainer, bind_eq_ok_iff]
  constructor
  · rintro ⟨flags, hset, h⟩
    cases h
    exact ⟨masterURL_of_setAll hset, readAsCSV_of_setAll hset (by simp) hroles,
      readAsCSV_of_setAll hset (by simp) hplugins⟩
  · rintro ⟨hurl, hreadRoles, hreadPlugins⟩
    have htakes : ∀ a ∈ assignments k c np, ∃ value', loggingFlags.Takes a value' := by
      have hstring : ∀ a : String × String, a.1 ∈ ["pilot-name", "pilot-namespace",
          "elasticsearch-master-url", "leader-election-config-map"] →
          ∃ value', loggingFlags.Takes a value' := fun a ha =>
        ⟨_, _, lookup_loggingFlags.1 a.1 ha, FlagValue.set_string_eq_ok_iff.mpr rfl⟩
      have hslice : ∀ name text texts, name ∈ ["elasticsearch-roles", "elasticsearch-plugins"] →
          readAsCSV text = .ok texts → ∃ value', loggingFlags.Takes (name, text) value' :=
        fun name text texts hname hread => ⟨_, _, lookup_loggingFlags.2 name hname,
          FlagValue.set_stringSlice_eq_ok_iff.mpr ⟨texts, hread, rfl⟩⟩
      intro a ha
      simp only [assignments, List.mem_cons, List.not_mem_nil, or_false] at ha
      rcases ha with rfl | rfl | rfl | rfl | rfl | rfl
      · exact hstring _ (by simp)
      · exact hstring _ (by simp)
      · exact hstring _ (by simp)
      · exact hslice _ _ _ (by simp) hreadRoles
      · exact hslice _ _ _ (by simp) hreadPlugins
      · exact hstring _ (by simp)
    obtain ⟨flags, hset⟩ := FlagSet.exists_setAll (assignments_nodup k c np) htakes
    refine ⟨flags, hset, ?_⟩
    have hsetRoles := readAsCSV_of_setAll hset (by simp) hroles
    have hsetPlugins := readAsCSV_of_setAll hset (by simp) hplugins
    rw [hreadRoles] at hsetRoles
    rw [hreadPlugins] at hsetPlugins
    rw [elasticsearchOptions, masterURL_of_setAll hset, ← Except.ok.inj hsetRoles,
      ← Except.ok.inj hsetPlugins, ← hurl]
    rfl

end Parse

section Roles

/-- Each role of the list sets its variable. -/
theorem foldl_addRole (roles : List ElasticsearchClusterRole) (e : EsEnv) :
    (roles.map ElasticsearchClusterRole.string).foldl EsEnv.addRole e =
      ⟨e.nodeData || decide (.data ∈ roles), e.nodeIngest || decide (.ingest ∈ roles),
        e.nodeMaster || decide (.master ∈ roles)⟩ := by
  induction roles generalizing e with
  | nil => simp
  | cons role rest ih =>
      rw [List.map_cons, List.foldl_cons, ih]
      rcases role with _ | _ | _ | ⟨text, hunknown⟩
      · simp [EsEnv.addRole, ElasticsearchClusterRole.string]
      · simp [EsEnv.addRole, ElasticsearchClusterRole.string]
      · simp [EsEnv.addRole, ElasticsearchClusterRole.string]
      · simp only [List.mem_cons, List.not_mem_nil, or_false, not_or] at hunknown
        simp [EsEnv.addRole, ElasticsearchClusterRole.string, hunknown]

/-- The roles of an accepted pool are known ones. -/
theorem known_roles {c : Cluster} (haccepted : validateElasticsearchCluster c = .ok [])
    {np : NodePool} (hnp : np ∈ c.spec.nodePools) :
    ∀ text ∈ np.roles.map ElasticsearchClusterRole.string, text ∈ ["data", "master", "ingest"] := by
  intro text htext
  obtain ⟨role, hrole, rfl⟩ := List.mem_map.mp htext
  obtain ⟨i, hi⟩ := List.mem_iff_getElem?.mp hnp
  have hchecks := (validateElasticsearchCluster_eq_ok_iff.mp haccepted).2.nodePools i np hi
  obtain ⟨j, hj⟩ := List.mem_iff_getElem?.mp hrole
  have hvalid := hchecks.eachRole j role hj
  rcases role with _ | _ | _ | ⟨text, hunknown⟩
  · decide
  · decide
  · decide
  · cases hvalid

/-- They come through. -/
theorem survivesJoin_roles {c : Cluster} (haccepted : validateElasticsearchCluster c = .ok [])
    {np : NodePool} (hnp : np ∈ c.spec.nodePools) :
    SurvivesJoin (np.roles.map ElasticsearchClusterRole.string) := by
  have hknown := known_roles haccepted hnp
  have hplain : ∀ text ∈ ["data", "master", "ingest"],
      Csv.Clean text.toList ∧ text.toList.getLast? ≠ some '\r' ∧ text ≠ "" := by decide
  refine ⟨?_, fun text htext => (hplain text (hknown text htext)).1, ?_⟩
  · intro hblank
    exact (hplain "" (hknown "" (by rw [hblank]; exact List.mem_singleton.mpr rfl))).2.2 rfl
  · intro last hlast
    exact (hplain last (hknown last (List.mem_of_getLast? hlast))).2.1

/-- A character of strings that are joined with commas is a comma or one of theirs. -/
theorem mem_intercalate {texts : List String} {ch : Char}
    (h : ch ∈ (",".intercalate texts).toList) : ch = ',' ∨ ∃ text ∈ texts, ch ∈ text.toList := by
  have hjoin : (",".intercalate texts).toList = Csv.join (texts.map String.toList) :=
    String.toList_intercalate
  by_cases hcomma : ch = ','
  · exact .inl hcomma
  · rw [hjoin, Csv.mem_join_iff hcomma] at h
    obtain ⟨_, hmem, hch⟩ := h
    obtain ⟨text, htext, rfl⟩ := List.mem_map.mp hmem
    exact .inr ⟨text, htext, hch⟩

/-- Their characters need no quoting and begin no reference. -/
theorem roles_chars {c : Cluster} (haccepted : validateElasticsearchCluster c = .ok [])
    {np : NodePool} (hnp : np ∈ c.spec.nodePools) :
    ∀ ch ∈ (",".intercalate (np.roles.map ElasticsearchClusterRole.string)).toList,
      Csv.special ch = false ∧ ch ≠ '$' := by
  have hknown : ∀ text ∈ ["data", "master", "ingest"], ∀ ch ∈ text.toList,
      Csv.special ch = false ∧ ch ≠ '$' := by simp [Csv.special]
  intro ch hch
  rcases mem_intercalate hch with rfl | ⟨text, htext, hch⟩
  · decide
  · exact hknown text (known_roles haccepted hnp text htext) ch hch

end Roles

section Variables

/-- The name of an accepted cluster has no quotes and no line breaks. -/
theorem special_of_mem_name {c : Cluster} (haccepted : validateElasticsearchCluster c = .ok [])
    {ch : Char} (hch : ch ∈ c.metadata.name.toList) : Csv.special ch = false := by
  have hname := (validateObjectMeta_eq_nil (validateElasticsearchCluster_eq_ok_iff.mp haccepted).1).1
  have hlabel := labelValueRegexp_of_dns1123Subdomain (isDNS1123Subdomain_eq_nil_iff.mp hname).2
  have hallowed : qnameExtChar ch = true := by
    simp only [labelValueRegexp, Bool.or_eq_true, decide_eq_true_eq] at hlabel
    rcases hlabel with hempty | hmatches
    · rw [hempty] at hch
      cases hch
    · exact (matchesEnds_iff.mp hmatches).1 ch hch
  by_contra h
  rw [Bool.not_eq_false, Csv.special, Bool.or_eq_true, Bool.or_eq_true] at h
  simp only [decide_eq_true_eq] at h
  rcases h with (rfl | rfl) | rfl
  · exact absurd hallowed (by decide)
  · exact absurd hallowed (by decide)
  · exact absurd hallowed (by decide)

/-- The variables that the value of `PLUGINS` may refer to. -/
theorem environment_plain_plugins (k : Kubelet) {c : Cluster}
    (haccepted : validateElasticsearchCluster c = .ok []) {np : NodePool}
    (hnp : np ∈ c.spec.nodePools) :
    PlainVariables (k.environment ((elasticsearchEnv c np).take 2)) := by
  have hnames : ∀ name ∈ ["DISCOVERY_URL", "ROLES", "es-", "-discovery"], ∀ ch ∈ name.toList,
      Csv.special ch = false := by simp [Csv.special]
  apply k.environment_plain
  rintro var hvar
  simp only [elasticsearchEnv, List.take_succ_cons, List.take_zero, List.mem_cons,
    List.not_mem_nil, or_false] at hvar
  rcases hvar with rfl | rfl
  · refine ⟨_, rfl, fun ch hch => ?_⟩
    simp only [discoveryServiceName, resourceBaseName, String.toList_append, List.mem_append] at hch
    rcases hch with hch | (hch | hch) | hch
    · exact hnames _ (by simp) ch hch
    · exact hnames _ (by simp) ch hch
    · exact special_of_mem_name haccepted hch
    · exact hnames _ (by simp) ch hch
  · refine ⟨_, rfl, fun ch hch => ?_⟩
    rcases List.mem_append.mp hch with hch | hch
    · exact hnames _ (by simp) ch hch
    · exact (roles_chars haccepted hnp ch hch).1

/-- The roles reach the container as they are written. -/
theorem value_roles (k : Kubelet) {c : Cluster}
    (haccepted : validateElasticsearchCluster c = .ok []) {np : NodePool}
    (hnp : np ∈ c.spec.nodePools) :
    k.value (elasticsearchEnv c np) "ROLES" =
      ",".intercalate (np.roles.map ElasticsearchClusterRole.string) :=
  k.expansion.plain _ _ fun hmem => (roles_chars haccepted hnp _ hmem).2 rfl

/-- The container gets the text of the plugins as it is written. -/
def Kubelet.HandsOn (k : Kubelet) (c : Cluster) (np : NodePool) : Prop :=
  k.value (elasticsearchEnv c np) "PLUGINS" = ",".intercalate c.spec.plugins

/-- So it is without a dollar sign. -/
theorem Kubelet.handsOn_of_plain (k : Kubelet) {c : Cluster} (np : NodePool)
    (h : ∀ plugin ∈ c.spec.plugins, '$' ∉ plugin.toList) : k.HandsOn c np := by
  refine k.expansion.plain _ _ fun hmem => ?_
  rcases mem_intercalate hmem with hcomma | ⟨plugin, hplugin, hch⟩
  · cases hcomma
  · exact h plugin hplugin hch

/-- What the container gets is read as the plugins exactly when it is their text and
they come through. -/
theorem readAsCSV_value_plugins (k : Kubelet) {c : Cluster}
    (haccepted : validateElasticsearchCluster c = .ok []) {np : NodePool}
    (hnp : np ∈ c.spec.nodePools) :
    readAsCSV (k.value (elasticsearchEnv c np) "PLUGINS") = .ok c.spec.plugins ↔
      k.HandsOn c np ∧ SurvivesJoin c.spec.plugins := by
  apply readAsCSV_eq_ok_iff
  have hkeeps := k.expansion.keeps _ (",".intercalate c.spec.plugins) Csv.special
    (by simp [Csv.special]) (environment_plain_plugins k haccepted hnp)
  rw [List.countP_eq_length_filter, List.countP_eq_length_filter]
  exact congrArg List.length hkeeps

end Variables

/-- The pilot of the container starts with the plugins of the spec, and its process
with the roles of the pool. -/
def ReachesProcess (k : Kubelet) (c : Cluster) (np : NodePool) (container : Container) : Prop :=
  ∃ o, parseOptions k container = .ok o ∧ o.plugins = c.spec.plugins ∧
    env o = ⟨decide (.data ∈ np.roles), decide (.ingest ∈ np.roles),
      decide (.master ∈ np.roles)⟩

/-- Roles and plugins of an accepted cluster reach the process exactly when Kubernetes
hands the text of the plugins on as it is, which it does without a dollar sign in it,
and the plugins come through joined with commas. -/
theorem reachesProcess_iff (k : Kubelet) {c : Cluster}
    (haccepted : validateElasticsearchCluster c = .ok []) {np : NodePool}
    (hnp : np ∈ c.spec.nodePools) {template : PodTemplateSpec}
    (htemplate : elasticsearchPodTemplateSpec c np = .ok template) :
    ((∀ container ∈ template.spec.containers, ReachesProcess k c np container) ↔
      k.HandsOn c np ∧ SurvivesJoin c.spec.plugins) ∧
    ((∀ plugin ∈ c.spec.plugins, '$' ∉ plugin.toList) → k.HandsOn c np) := by
  obtain ⟨esImage, _, h⟩ := bind_eq_ok htemplate
  cases h
  refine ⟨?_, k.handsOn_of_plain np⟩
  rw [List.forall_mem_singleton, ← readAsCSV_value_plugins k haccepted hnp]
  have hroles := readAsCSV_intercalate_iff.mpr (survivesJoin_roles haccepted hnp)
  rw [← value_roles k haccepted hnp] at hroles
  constructor
  · rintro ⟨o, hparse, hplugins, _⟩
    obtain ⟨_, _, hread⟩ := parseOptions_eq_ok_iff.mp hparse
    rw [hread, hplugins]
  · intro hplugins
    refine ⟨⟨_, _, c.spec.plugins⟩, parseOptions_eq_ok_iff.mpr ⟨rfl, hroles, hplugins⟩, rfl, ?_⟩
    exact foldl_addRole np.roles {}

namespace PilotOptionsWitness

/-- Where a scan for references is: in plain text, behind a dollar sign, or in the name
of a variable. -/
inductive Scan where
  | text
  | dollar
  | name (read : List Char)

/-- Replace the references in a text; two dollar signs stand for one, and a reference
that does not end is none. -/
def scan (env : String → Option String) : Scan → List Char → List Char
  | .text, [] => []
  | .dollar, [] => ['$']
  | .name read, [] => '$' :: '(' :: read
  | .text, c :: rest => if c = '$' then scan env .dollar rest else c :: scan env .text rest
  | .dollar, c :: rest =>
      if c = '$' then '$' :: scan env .text rest
      else if c = '(' ∧ ')' ∈ rest then scan env (.name []) rest
      else '$' :: c :: scan env .text rest
  | .name read, c :: rest =>
      if c = ')' then
        ((env (String.ofList read)).getD ("$(" ++ String.ofList read ++ ")")).toList ++
          scan env .text rest
      else scan env (.name (read ++ [c])) rest

section Scan

variable (env : String → Option String)

theorem scan_text {text : List Char} (h : '$' ∉ text) (rest : List Char) :
    scan env .text (text ++ rest) = text ++ scan env .text rest := by
  induction text with
  | nil => rfl
  | cons c text ih =>
      simp only [List.mem_cons, not_or] at h
      rw [List.cons_append, scan, if_neg (Ne.symm h.1), ih h.2, List.cons_append]

theorem scan_name {name : List Char} (h : ')' ∉ name) (read rest : List Char) :
    scan env (.name read) (name ++ rest) = scan env (.name (read ++ name)) rest := by
  induction name generalizing read with
  | nil => simp
  | cons c name ih =>
      simp only [List.mem_cons, not_or] at h
      rw [List.cons_append, scan, if_neg (Ne.symm h.1), ih h.2, List.append_assoc,
        List.singleton_append]

/-- The text of the name so far. -/
def Scan.pending : Scan → List Char
  | .name read => read
  | _ => []

theorem filter_scan {p : Char → Bool} (hmarks : ∀ mark ∈ ['$', '(', ')'], p mark = false)
    (henv : ∀ name value, env name = some value → ∀ c ∈ name.toList ++ value.toList, p c = false)
    (input : List Char) (state : Scan) :
    (scan env state input).filter p = state.pending.filter p ++ input.filter p := by
  have hdollar : p '$' = false := hmarks _ (by simp)
  have hopen : p '(' = false := hmarks _ (by simp)
  have hclose : p ')' = false := hmarks _ (by simp)
  induction input generalizing state with
  | nil =>
      cases state with
      | text => rfl
      | dollar => simp [scan, Scan.pending, hdollar]
      | name read => simp [scan, Scan.pending, hdollar, hopen]
  | cons c rest ih =>
      cases state with
      | text =>
          simp only [scan]
          split_ifs with hc
          · simp [ih, Scan.pending, hc, hdollar]
          · simp [ih, Scan.pending, List.filter_cons]
      | dollar =>
          simp only [scan]
          split_ifs with hc href
          · simp [ih, Scan.pending, hc, hdollar]
          · simp [ih, Scan.pending, href.1, hopen]
          · simp [ih, Scan.pending, List.filter_cons, hdollar]
      | name read =>
          simp only [scan]
          split_ifs with hc
          · have hvalue : ((env (String.ofList read)).getD
                ("$(" ++ String.ofList read ++ ")")).toList.filter p = read.filter p := by
              cases hname : env (String.ofList read) with
              | none => simp [hdollar, hopen, hclose]
              | some value =>
                  have hplain := henv _ _ hname
                  rw [Option.getD_some, List.filter_eq_nil_iff.mpr, List.filter_eq_nil_iff.mpr]
                  · exact fun c hc => by simp [hplain c (by simp [hc])]
                  · exact fun c hc => by simp [hplain c (by simp [hc])]
            simp only [List.filter_append, hvalue, ih, hc, Scan.pending, List.filter_nil,
              List.nil_append, List.filter_cons, hclose]
            rfl
          · rw [ih, Scan.pending, Scan.pending, List.filter_append, List.append_assoc,
              ← List.filter_append, List.singleton_append]

end Scan

/-- The expansion of Kubernetes. -/
def expansion : Expansion where
  expand env text := String.ofList (scan env .text text.toList)
  plain env text h := by
    have hscan := scan_text env h []
    rw [List.append_nil] at hscan
    rw [hscan, scan, List.append_nil, String.ofList_toList]
  reference env text name value htext hname hvalue := by
    have hchars : (text ++ "$(" ++ name ++ ")").toList =
        text.toList ++ '$' :: '(' :: (name.toList ++ [')']) := by simp
    rw [hchars, scan_text env htext, scan, if_pos rfl, scan, if_neg (by decide),
      if_pos ⟨rfl, by simp⟩, scan_name env hname, scan, if_pos rfl, List.nil_append,
      String.ofList_toList, hvalue]
    simp [scan]
  keeps env text p hmarks henv := by
    rw [String.toList_ofList, filter_scan env hmarks henv]
    rfl

/-- A node without services, and the pod of the pool. -/
def kubelet : Kubelet where
  expansion := expansion
  services := fun _ => none
  services_plain := fun _ _ h => nomatch h
  downward := fun _ => "es-db-data-0"

def pool : NodePool := samplePool "data" 1 [.master, .data]

def cluster (plugins : List String) : Cluster :=
  let c := sampleCluster "db" "uid-db" (release 6 1 1) [pool]
  { c with spec := { c.spec with plugins := plugins } }

def template (plugins : List String) : PodTemplateSpec :=
  ((elasticsearchPodTemplateSpec (cluster plugins) pool).toOption).getD {}

/-- Two plugins reach the process. -/
theorem reachesProcess_iff_two :
    pool ∈ (cluster ["analysis-icu", "repository-s3"]).spec.nodePools ∧
      ∀ container ∈ (template ["analysis-icu", "repository-s3"]).spec.containers,
        ReachesProcess kubelet (cluster ["analysis-icu", "repository-s3"]) pool container := by
  have hfacts : validateElasticsearchCluster (cluster ["analysis-icu", "repository-s3"]) =
        .ok [] ∧
      pool ∈ (cluster ["analysis-icu", "repository-s3"]).spec.nodePools ∧
      elasticsearchPodTemplateSpec (cluster ["analysis-icu", "repository-s3"]) pool =
        .ok (template ["analysis-icu", "repository-s3"]) := by decide +kernel
  obtain ⟨haccepted, hpool, htemplate⟩ := hfacts
  obtain ⟨hiff, hplain⟩ := reachesProcess_iff kubelet haccepted hpool htemplate
  exact ⟨hpool, hiff.mpr ⟨hplain (by decide), by decide, by decide, by decide⟩⟩

/-- What arrives of the plugins, in each container of the pool. -/
def arriving (plugins : List String) : List (Except FlagError (List String)) :=
  (template plugins).spec.containers.map fun container =>
    (parseOptions kubelet container).map ElasticsearchOptions.plugins

theorem not_reaches {plugins arrived : List String} (h : arriving plugins = [.ok arrived])
    (hdiffers : arrived ≠ plugins) :
    ¬ ∀ container ∈ (template plugins).spec.containers,
      ReachesProcess kubelet (cluster plugins) pool container := by
  intro hreaches
  obtain ⟨container, hcontainer, hparse⟩ := List.mem_map.mp
    (show .ok arrived ∈ arriving plugins by rw [h]; exact List.mem_singleton.mpr rfl)
  obtain ⟨o, hok, hplugins, _⟩ := hreaches container hcontainer
  rw [hok] at hparse
  exact hdiffers ((Except.ok.inj hparse).symm.trans hplugins)

/-- A plugin file with a comma in its name arrives as two plugins, and references and
escapes are replaced. -/
theorem reachesProcess_not_comma :
    (validateElasticsearchCluster (cluster ["file:///plugins/a,b.zip"]) = .ok [] ∧
      arriving ["file:///plugins/a,b.zip"] = [.ok ["file:///plugins/a", "b.zip"]] ∧
      ¬ ∀ container ∈ (template ["file:///plugins/a,b.zip"]).spec.containers,
        ReachesProcess kubelet (cluster ["file:///plugins/a,b.zip"]) pool container) ∧
    validateElasticsearchCluster (cluster ["$(ROLES)", "a$$b"]) = .ok [] ∧
      arriving ["$(ROLES)", "a$$b"] = [.ok ["master", "data", "a$b"]] ∧
      ¬ ∀ container ∈ (template ["$(ROLES)", "a$$b"]).spec.containers,
        ReachesProcess kubelet (cluster ["$(ROLES)", "a$$b"]) pool container := by
  have hcomma : validateElasticsearchCluster (cluster ["file:///plugins/a,b.zip"]) = .ok [] ∧
      arriving ["file:///plugins/a,b.zip"] = [.ok ["file:///plugins/a", "b.zip"]] := by
    decide +kernel
  have hdollar : validateElasticsearchCluster (cluster ["$(ROLES)", "a$$b"]) = .ok [] ∧
      arriving ["$(ROLES)", "a$$b"] = [.ok ["master", "data", "a$b"]] := by decide +kernel
  exact ⟨⟨hcomma.1, hcomma.2, not_reaches hcomma.2 (by decide)⟩, hdollar.1, hdollar.2,
    not_reaches hdollar.2 (by decide)⟩

end PilotOptionsWitness

end Elasticsearch

end Navigator
