/-
What identifies the configuration of a supervised driver.

`config_identity` hashes the fields of a configuration one after another.  Arguments and the
environment come after their lengths; the program, the working directory and the bootstrap
configuration do not, and nothing says where a list ends; four fields are not hashed at all.
Configurations that are laid out alike are told apart by what is hashed, others need not be.

* **`config_identity_identifies_iff`** — configurations of one identity, or of one launch
  attempt, agree iff they are laid out alike, and are the same iff the other fields agree too.
-/
import Navigator.Digests

namespace Navigator

open CanonicalInput

variable {env : Env} {xs ys : List UInt8}

inductive OwnershipChannel where
  | stdin | dedicatedFd
deriving DecidableEq

inductive ProcessIoMode where
  | headless | terminalPty
deriving DecidableEq

/-- A capability a driver is offered, with its parameters in the order of their keys. -/
structure DriverCapabilityRequirement where
  capability : Capability
  minimumVersion : ℕ
  parameters : List (BoundedText 64 × BoundedText 256)
deriving DecidableEq

/-- A configuration; paths and the platform's texts are bytes, and the environment and its
allowlist are in the order of their keys. -/
structure SupervisedDriverConfig where
  driverId : DriverId
  program : List UInt8
  expectedExecutableIdentity : Digest
  arguments : List (List UInt8)
  workingDirectory : List UInt8
  environment : List (List UInt8 × List UInt8)
  environmentAllowlist : List (List UInt8)
  controlDirectory : List UInt8
  controlSocketEnvironment : List UInt8
  connectTimeout : Duration
  offeredCapabilities : List DriverCapabilityRequirement
  ownershipChannel : OwnershipChannel
  processIoMode : ProcessIoMode
  bootstrapConfiguration : List UInt8
  trustedArtifacts : List (List UInt8 × Digest)
deriving DecidableEq

def OwnershipChannel.code : OwnershipChannel → UInt8
  | stdin => 0
  | dedicatedFd => 1

def ProcessIoMode.code : ProcessIoMode → UInt8
  | headless => 0
  | terminalPty => 1

def DriverCapabilityRequirement.input (k : DriverCapabilityRequirement) : List UInt8 :=
  Bytes.utf8 k.capability.asStr ++ Bytes.bigEndian 4 k.minimumVersion ++
    k.parameters.flatMap fun p => Bytes.utf8 p.1.asStr ++ [0] ++ Bytes.utf8 p.2.asStr ++ [0]

/-- What `config_identity` hashes. -/
def SupervisedDriverConfig.input (c : SupervisedDriverConfig) : List UInt8 :=
  Bytes.utf8 "navigator.driver.profile.v1\x00" ++ c.driverId.bytes ++
    fixed c.expectedExecutableIdentity ++ c.program ++ c.workingDirectory ++
    c.bootstrapConfiguration ++ [c.ownershipChannel.code] ++ [c.processIoMode.code] ++
    c.arguments.flatMap bytes ++ (c.environment.flatMap fun e => bytes e.1 ++ bytes e.2) ++
    c.offeredCapabilities.flatMap DriverCapabilityRequirement.input ++
    c.trustedArtifacts.flatMap fun a => a.1 ++ [0] ++ fixed a.2

def configIdentity (env : Env) (c : SupervisedDriverConfig) : Digest := env.sha256 c.input

/-- What `resolved_driver_identity` hashes. -/
def resolvedInput (base catalog : Digest) : List UInt8 :=
  Bytes.utf8 "navigator.driver.config-with-tools.v1\x00" ++ fixed base ++ fixed catalog

def resolvedDriverIdentity (env : Env) (base catalog : Digest) : Digest :=
  env.sha256 (resolvedInput base catalog)

/-- A catalogue of tools, by the JSON text of its entries and of what they are bound to. -/
structure TrustedToolCatalog where
  document : List UInt8

/-- What is hashed for a catalogue. -/
def TrustedToolCatalog.input (k : TrustedToolCatalog) : List UInt8 :=
  Env.semanticInput "driver.trusted_tool_catalog.v1" k.document

def TrustedToolCatalog.identity (env : Env) (k : TrustedToolCatalog) : Digest :=
  env.sha256 k.input

/-- What `resolved_launch_attempt_id` hashes. -/
def attemptInput (p : ParticipantId) (epoch : FencingEpoch) (resolved : Digest) : List UInt8 :=
  Bytes.utf8 "navigator.driver.attempt.v1" ++ (p.bytes ++ u64 epoch.get) ++ fixed resolved

def resolvedLaunchAttemptId (env : Env) (p : ParticipantId) (epoch : FencingEpoch)
    (resolved : Digest) : LaunchAttemptId :=
  ⟨Env.uuidOfDigest (env.sha256 (attemptInput p epoch resolved)), Env.uuidOfDigest_ne_zero _⟩

def resolvedLaunchAttemptForConfig (env : Env) (p : ParticipantId) (epoch : FencingEpoch)
    (c : SupervisedDriverConfig) (k : TrustedToolCatalog) : LaunchAttemptId :=
  resolvedLaunchAttemptId env p epoch
    (resolvedDriverIdentity env (configIdentity env c) (k.identity env))

/-! ### Layouts -/

/-- The lengths that the input of an identity does not say. -/
structure SupervisedDriverConfig.Layout where
  program : ℕ
  workingDirectory : ℕ
  bootstrapConfiguration : ℕ
  arguments : ℕ
  environment : ℕ
  offeredCapabilities : List (ℕ × List (ℕ × ℕ))
  trustedArtifacts : List ℕ
deriving DecidableEq

def DriverCapabilityRequirement.layout (k : DriverCapabilityRequirement) : ℕ × List (ℕ × ℕ) :=
  (k.capability.asStr.utf8ByteSize,
    k.parameters.map fun p => (p.1.asStr.utf8ByteSize, p.2.asStr.utf8ByteSize))

def SupervisedDriverConfig.layout (c : SupervisedDriverConfig) : Layout :=
  ⟨c.program.length, c.workingDirectory.length, c.bootstrapConfiguration.length,
    c.arguments.length, c.environment.length,
    c.offeredCapabilities.map DriverCapabilityRequirement.layout,
    c.trustedArtifacts.map fun a => a.1.length⟩

/-- A configuration as the source has it: lengths of 64 bits and versions of 32. -/
structure SupervisedDriverConfig.Fits (c : SupervisedDriverConfig) : Prop where
  arguments : ∀ a ∈ c.arguments, a.length < u64Bound
  environment : ∀ e ∈ c.environment, e.1.length < u64Bound ∧ e.2.length < u64Bound
  versions : ∀ k ∈ c.offeredCapabilities, k.minimumVersion < 256 ^ 4

/-- Fields that are laid out alike are taken off the front. -/
theorem flatMap_append_inj {α γ : Type} {f : α → List UInt8} (g : α → γ) {l l' : List α}
    (hf : ∀ a ∈ l, ∀ b ∈ l', g a = g b → ∀ xs ys, f a ++ xs = f b ++ ys → a = b ∧ xs = ys)
    (hg : l.map g = l'.map g) (h : l.flatMap f ++ xs = l'.flatMap f ++ ys) :
    l = l' ∧ xs = ys := by
  induction l generalizing l' with
  | nil =>
    cases l' with
    | nil => exact ⟨rfl, h⟩
    | cons => cases hg
  | cons a l ih =>
    obtain _ | ⟨b, l'⟩ := l'
    · cases hg
    obtain ⟨hab, hmap⟩ := List.cons.inj hg
    rw [List.flatMap_cons, List.flatMap_cons, List.append_assoc, List.append_assoc] at h
    obtain ⟨rfl, hrest⟩ := hf a List.mem_cons_self b List.mem_cons_self hab _ _ h
    obtain ⟨rfl, hxs⟩ := ih (fun a ha b hb => hf a (List.mem_cons_of_mem _ ha) b
      (List.mem_cons_of_mem _ hb)) hmap hrest
    exact ⟨rfl, hxs⟩

/-- Texts of one length are. -/
theorem utf8_append_inj {s t : String} (hsize : s.utf8ByteSize = t.utf8ByteSize)
    (h : Bytes.utf8 s ++ xs = Bytes.utf8 t ++ ys) : s = t ∧ xs = ys := by
  obtain ⟨htext, hrest⟩ := List.append_inj h (by rw [Bytes.utf8_length, Bytes.utf8_length, hsize])
  exact ⟨Bytes.utf8_injective htext, hrest⟩

theorem DriverCapabilityRequirement.input_append_inj {k k' : DriverCapabilityRequirement}
    (hk : k.minimumVersion < 256 ^ 4) (hk' : k'.minimumVersion < 256 ^ 4)
    (hlayout : k.layout = k'.layout) (h : k.input ++ xs = k'.input ++ ys) : k = k' ∧ xs = ys := by
  obtain ⟨hsize, hsizes⟩ := Prod.mk.inj hlayout
  simp only [input, List.append_assoc] at h
  obtain ⟨hname, h⟩ := utf8_append_inj hsize h
  obtain ⟨hversion, h⟩ := Bytes.bigEndian_append_inj hk hk' h
  obtain ⟨hparameters, hrest⟩ : k.parameters = k'.parameters ∧ xs = ys := by
    refine flatMap_append_inj _ (fun p _ q _ hpq xs ys h => ?_) hsizes h
    obtain ⟨hkey, hvalue⟩ := Prod.mk.inj hpq
    simp only [List.append_assoc] at h
    obtain ⟨hkey, h⟩ := utf8_append_inj hkey h
    obtain ⟨hvalue, h⟩ := utf8_append_inj hvalue (List.cons.inj h).2
    exact ⟨Prod.ext (BoundedText.asStr_injective hkey) (BoundedText.asStr_injective hvalue),
      (List.cons.inj h).2⟩
  rcases k with ⟨⟨name⟩, version, parameters⟩
  rcases k' with ⟨⟨name'⟩, version', parameters'⟩
  cases hname
  cases hversion
  cases hparameters
  exact ⟨rfl, hrest⟩

/-- The fields that are not hashed. -/
def SupervisedDriverConfig.unhashed (c : SupervisedDriverConfig) :
    List (List UInt8) × List UInt8 × List UInt8 × Duration :=
  (c.environmentAllowlist, c.controlDirectory, c.controlSocketEnvironment, c.connectTimeout)

/-- The others are equal. -/
structure SupervisedDriverConfig.Agrees (c c' : SupervisedDriverConfig) : Prop where
  driverId : c.driverId = c'.driverId
  expectedExecutableIdentity : c.expectedExecutableIdentity = c'.expectedExecutableIdentity
  program : c.program = c'.program
  workingDirectory : c.workingDirectory = c'.workingDirectory
  bootstrapConfiguration : c.bootstrapConfiguration = c'.bootstrapConfiguration
  ownershipChannel : c.ownershipChannel = c'.ownershipChannel
  processIoMode : c.processIoMode = c'.processIoMode
  arguments : c.arguments = c'.arguments
  environment : c.environment = c'.environment
  offeredCapabilities : c.offeredCapabilities = c'.offeredCapabilities
  trustedArtifacts : c.trustedArtifacts = c'.trustedArtifacts

theorem SupervisedDriverConfig.eq_iff_agrees {c c' : SupervisedDriverConfig} :
    c = c' ↔ c.Agrees c' ∧ c.unhashed = c'.unhashed := by
  refine ⟨fun h => h ▸ ⟨⟨rfl, rfl, rfl, rfl, rfl, rfl, rfl, rfl, rfl, rfl, rfl⟩, rfl⟩, ?_⟩
  rintro ⟨⟨h1, h2, h3, h4, h5, h6, h7, h8, h9, h10, h11⟩, hunhashed⟩
  cases c
  cases c'
  simp_all [unhashed]

theorem SupervisedDriverConfig.Agrees.layout {c c' : SupervisedDriverConfig} (h : c.Agrees c') :
    c.layout = c'.layout := by
  simp only [SupervisedDriverConfig.layout, h.program, h.workingDirectory, h.arguments,
    h.bootstrapConfiguration, h.environment, h.offeredCapabilities, h.trustedArtifacts]

theorem SupervisedDriverConfig.agrees_of_input {c c' : SupervisedDriverConfig} (hc : c.Fits)
    (hc' : c'.Fits) (hlayout : c.layout = c'.layout) (h : c.input = c'.input) : c.Agrees c' := by
  simp only [layout, Layout.mk.injEq] at hlayout
  obtain ⟨hprogram, hdirectory, hbootstrap, harguments, henvironment, hcapabilities,
    hartifacts⟩ := hlayout
  replace h := congrArg (· ++ []) h
  simp only [input, List.append_assoc] at h
  obtain ⟨hdriver, h⟩ := Id.bytes_append_iff.mp (List.append_cancel_left h)
  obtain ⟨hexecutable, h⟩ := fixed_append_iff.mp h
  obtain ⟨hprogram, h⟩ := List.append_inj h hprogram
  obtain ⟨hdirectory, h⟩ := List.append_inj h hdirectory
  obtain ⟨hbootstrap, h⟩ := List.append_inj h hbootstrap
  obtain ⟨hchannel, h⟩ := List.cons.inj h
  obtain ⟨hmode, h⟩ := List.cons.inj h
  obtain ⟨harguments, h⟩ := flatMap_append_inj (fun _ => ()) (fun a ha b hb _ xs ys =>
    (bytes_append_iff (hc.arguments a ha) (hc'.arguments b hb)).mp) (by simpa using harguments) h
  have hentry : ∀ a ∈ c.environment, ∀ b ∈ c'.environment, () = () → ∀ xs ys,
      bytes a.1 ++ bytes a.2 ++ xs = bytes b.1 ++ bytes b.2 ++ ys → a = b ∧ xs = ys := by
    intro a ha b hb _ xs ys h
    obtain ⟨hkey, hvalue⟩ := hc.environment a ha
    obtain ⟨hkey', hvalue'⟩ := hc'.environment b hb
    rw [List.append_assoc, List.append_assoc, bytes_append_iff hkey hkey',
      bytes_append_iff hvalue hvalue'] at h
    exact ⟨Prod.ext h.1 h.2.1, h.2.2⟩
  obtain ⟨henvironment, h⟩ := flatMap_append_inj (fun _ => ()) hentry
    (by simpa using henvironment) h
  obtain ⟨hcapabilities, h⟩ := flatMap_append_inj _ (fun a ha b hb hab xs ys =>
    DriverCapabilityRequirement.input_append_inj (hc.versions a ha) (hc'.versions b hb) hab)
    hcapabilities h
  have hartifact : ∀ a ∈ c.trustedArtifacts, ∀ b ∈ c'.trustedArtifacts,
      a.1.length = b.1.length → ∀ xs ys, a.1 ++ ([0] ++ fixed a.2) ++ xs =
        b.1 ++ ([0] ++ fixed b.2) ++ ys → a = b ∧ xs = ys := by
    intro a _ b _ hlength xs ys h
    simp only [List.append_assoc] at h
    obtain ⟨hpath, h⟩ := List.append_inj h hlength
    obtain ⟨hdigest, h⟩ := fixed_append_iff.mp (List.cons.inj h).2
    exact ⟨Prod.ext hpath hdigest, h⟩
  obtain ⟨hartifacts, -⟩ := flatMap_append_inj _ hartifact hartifacts h
  have hchannels : Function.Injective OwnershipChannel.code := by
    rintro ⟨⟩ ⟨⟩ h <;> first | rfl | cases h
  have hmodes : Function.Injective ProcessIoMode.code := by
    rintro ⟨⟩ ⟨⟩ h <;> first | rfl | cases h
  exact ⟨hdriver, hexecutable, hprogram, hdirectory, hbootstrap, hchannels hchannel, hmodes hmode,
    harguments, henvironment, hcapabilities, hartifacts⟩

/-! ### Identities -/

/-- What is hashed for two configurations and their catalogues does not collide, not even when
the digest is cut to an identity. -/
structure Separate (env : Env) (p : ParticipantId) (epoch : FencingEpoch)
    (c c' : SupervisedDriverConfig) (k k' : TrustedToolCatalog) : Prop where
  catalog : env.sha256 k.input = env.sha256 k'.input → k.input = k'.input
  resolved : env.sha256 (resolvedInput (configIdentity env c) (k.identity env)) =
    env.sha256 (resolvedInput (configIdentity env c') (k'.identity env)) →
      resolvedInput (configIdentity env c) (k.identity env) =
        resolvedInput (configIdentity env c') (k'.identity env)
  attempt :
    Env.uuidOfDigest (env.sha256 (attemptInput p epoch
      (resolvedDriverIdentity env (configIdentity env c) (k.identity env)))) =
    Env.uuidOfDigest (env.sha256 (attemptInput p epoch
      (resolvedDriverIdentity env (configIdentity env c') (k'.identity env)))) →
      attemptInput p epoch (resolvedDriverIdentity env (configIdentity env c) (k.identity env)) =
        attemptInput p epoch
          (resolvedDriverIdentity env (configIdentity env c') (k'.identity env))

theorem Separate.configIdentity_eq {p : ParticipantId} {epoch : FencingEpoch}
    {c c' : SupervisedDriverConfig} {k k' : TrustedToolCatalog} (h : Separate env p epoch c c' k k')
    (hattempt : resolvedLaunchAttemptForConfig env p epoch c k =
      resolvedLaunchAttemptForConfig env p epoch c' k') :
    configIdentity env c = configIdentity env c' ∧ k = k' := by
  have hresolved := congrArg (· ++ [])
    (List.append_cancel_left (h.attempt (congrArg Id.uuid hattempt)))
  have hinput := h.resolved (fixed_append_iff.mp hresolved).1
  rw [resolvedInput, resolvedInput, List.append_assoc, List.append_assoc] at hinput
  obtain ⟨hconfig, hcatalog⟩ := fixed_append_iff.mp (List.append_cancel_left hinput)
  have hdocument := h.catalog (fixed_append_iff.mp (congrArg (· ++ []) hcatalog)).1
  cases k
  cases k'
  exact ⟨hconfig, congrArg _ (List.append_cancel_left hdocument)⟩

/-- **Configurations with one identity agree iff they are laid out alike**, and so do those that
resolve to one launch attempt of a participant, whose catalogues are the same; these are the same
iff what is not hashed agrees too. -/
theorem config_identity_identifies_iff {c c' : SupervisedDriverConfig} (hc : c.Fits)
    (hc' : c'.Fits) (hsha256 : env.sha256 c.input = env.sha256 c'.input → c.input = c'.input) :
    (configIdentity env c = configIdentity env c' → (c.Agrees c' ↔ c.layout = c'.layout)) ∧
      ∀ p epoch k k', Separate env p epoch c c' k k' →
        resolvedLaunchAttemptForConfig env p epoch c k =
          resolvedLaunchAttemptForConfig env p epoch c' k' →
        k = k' ∧ (c = c' ↔ c.layout = c'.layout ∧ c.unhashed = c'.unhashed) := by
  have hidentity : configIdentity env c = configIdentity env c' →
      (c.Agrees c' ↔ c.layout = c'.layout) := fun h => ⟨SupervisedDriverConfig.Agrees.layout,
    fun hlayout => SupervisedDriverConfig.agrees_of_input hc hc' hlayout (hsha256 h)⟩
  refine ⟨hidentity, fun p epoch k k' hseparate hattempt => ?_⟩
  obtain ⟨hconfig, hcatalog⟩ := hseparate.configIdentity_eq hattempt
  rw [SupervisedDriverConfig.eq_iff_agrees, hidentity hconfig]
  exact ⟨hcatalog, Iff.rfl⟩

namespace Sample

/-- A driver with nothing but a program, a working directory and a timeout. -/
def config (program workingDirectory : String) (timeout : ℕ) : SupervisedDriverConfig where
  driverId := id 0
  program := Bytes.utf8 program
  expectedExecutableIdentity := 7
  arguments := []
  workingDirectory := Bytes.utf8 workingDirectory
  environment := []
  environmentAllowlist := []
  controlDirectory := []
  controlSocketEnvironment := []
  connectTimeout := ⟨timeout⟩
  offeredCapabilities := []
  ownershipChannel := .stdin
  processIoMode := .headless
  bootstrapConfiguration := []
  trustedArtifacts := []

theorem config_fits (program workingDirectory : String) (timeout : ℕ) :
    (config program workingDirectory timeout).Fits :=
  ⟨nofun, nofun, nofun⟩

end Sample

open Sample in
/-- Two timeouts: one identity and one launch attempt, and all that is hashed agrees. -/
theorem config_identity_identifies_iff_alike :
    configIdentity world (config "/opt/a" "/srv" 1) =
        configIdentity world (config "/opt/a" "/srv" 2) ∧
      (config "/opt/a" "/srv" 1).Agrees (config "/opt/a" "/srv" 2) ∧
      (config "/opt/a" "/srv" 1 = config "/opt/a" "/srv" 2 ↔
        (config "/opt/a" "/srv" 1).layout = (config "/opt/a" "/srv" 2).layout ∧
          (config "/opt/a" "/srv" 1).unhashed = (config "/opt/a" "/srv" 2).unhashed) := by
  obtain ⟨hagrees, hsame⟩ := @config_identity_identifies_iff world _ _
    (config_fits "/opt/a" "/srv" 1) (config_fits "/opt/a" "/srv" 2) fun _ => rfl
  refine ⟨rfl, (hagrees rfl).mpr rfl, (hsame (id 0) epoch ⟨[]⟩ ⟨[]⟩ ?_ rfl).2⟩
  exact ⟨fun _ => rfl, fun _ => rfl, fun _ => rfl⟩

open Sample in
/-- A program in a directory, and one that is named like it. -/
theorem configurations_share_an_identity :
    config "/opt/driver" "/srv/a" 1 ≠ config "/opt/driver/srv" "/a" 1 ∧
      ∀ env, configIdentity env (config "/opt/driver" "/srv/a" 1) =
          configIdentity env (config "/opt/driver/srv" "/a" 1) ∧
        ∀ p epoch k,
          resolvedLaunchAttemptForConfig env p epoch (config "/opt/driver" "/srv/a" 1) k =
            resolvedLaunchAttemptForConfig env p epoch (config "/opt/driver/srv" "/a" 1) k := by
  refine ⟨fun h => absurd (congrArg SupervisedDriverConfig.program h) (by decide), fun env => ?_⟩
  have hinput : (config "/opt/driver" "/srv/a" 1).input =
      (config "/opt/driver/srv" "/a" 1).input := by
    decide +kernel
  have hidentity := congrArg env.sha256 hinput
  exact ⟨hidentity, fun p epoch k => by
    unfold resolvedLaunchAttemptForConfig
    rw [configIdentity, hidentity]
    rfl⟩

end Navigator
