import ConsoleLink.Config.Reader
import ConsoleLink.Config.Writer
import ConsoleLink.Proofs.Json.Records

/-!
# Configurations are read back from what is written for them

* `reads_prefixes`, `reads_runAs` and `reads_config` read the three records back, whether or not
  their optional members are there.
* `Config.parse_write` is the round trip of a whole configuration.
-/

namespace ConsoleLink

open Json (Reads)

theorem reads_prefixes (p : Prefixes) : Reads (Json.readRecord Prefixes.shape) p.toJson p := by
  refine Json.reads_record ?_
  refine .member_of rfl (by decide) (Json.reads_text _ p.mapping) ?_
  refine .member_of rfl (by decide) (Json.reads_text _ p.request) ?_
  refine .member_of rfl (by decide) (Json.reads_text _ p.response) ?_
  refine .member_of rfl (by decide) (Json.reads_text _ p.cancel) ?_
  refine .member_of rfl (by decide) (Json.reads_text _ p.job) ?_
  exact .nil rfl

theorem reads_runAs (r : RunAs) : Reads (Json.readRecord RunAs.shape) r.toJson r := by
  obtain ⟨user, password⟩ := r
  refine Json.reads_record ?_
  refine .member_of rfl (by decide) (Json.reads_text _ user) ?_
  cases password with
  | none => exact .nil rfl
  | some password =>
    refine .member_of rfl (by decide) (Json.reads_some (Json.shows_string _)
      (Json.reads_text _ password)) ?_
    exact .nil rfl

/-- Words are numbers in a text, and become words again. -/
theorem Config.of_words (c : Config) :
    { c with
      maxNameAttempts := c.maxNameAttempts.toNat.toUInt32
      runAs := c.runAs.map id
      shutdownTimeoutMs := (c.shutdownTimeoutMs.map UInt64.toNat).map Nat.toUInt64
      pollIntervalMs := c.pollIntervalMs.toNat.toUInt64
      workingDirectory := c.workingDirectory.map id } = c := by
  have hshutdown : (c.shutdownTimeoutMs.map UInt64.toNat).map Nat.toUInt64 =
      c.shutdownTimeoutMs := by
    simp [Function.comp_def]
  rw [hshutdown, Option.map_id_fun, Option.map_id_fun]
  simp

theorem reads_config (c : Config) : Reads (Json.readRecord Config.shape) c.toJson c := by
  have hrunAs := Json.reads_optional id
    (fun r => ⟨Json.shows_object _, reads_runAs r⟩) c.runAs
  have hshutdown := Json.reads_optional UInt64.toNat
    (fun ms => ⟨Json.shows_nat ms.toNat, Json.reads_word64 ms⟩) c.shutdownTimeoutMs
  have hdirectory := Json.reads_optional id
    (fun path => ⟨Json.shows_string path, Json.reads_text "path string" path⟩) c.workingDirectory
  refine Json.reads_record ?_
  refine .member_of rfl (by decide) (reads_prefixes c.prefixes) ?_
  refine .member_of rfl (by decide) (Json.reads_word32 c.maxNameAttempts) ?_
  refine .member_of rfl (by decide) (Json.reads_bool c.wantsProgress) ?_
  refine .member_of rfl (by decide) (Json.reads_bool c.guardWithJob) ?_
  refine .member_of rfl (by decide) (Json.reads_bool c.verifyHandlesClosed) ?_
  refine .member_of rfl (by decide) hrunAs ?_
  refine .member_of rfl (by decide) hshutdown ?_
  refine .member_of rfl (by decide) (Json.reads_word64 c.pollIntervalMs) ?_
  refine .member_of rfl (by decide) (Json.reads_text _ c.consoleSwitch) ?_
  refine .member_of rfl (by decide) (Json.reads_text _ c.instanceSwitch) ?_
  refine .member_of rfl (by decide) hdirectory ?_
  exact .over rfl (Config.of_words c)

/-- Every configuration is read back from its text. -/
theorem Config.parse_write (c : Config) : Config.parse c.write = .ok c := by
  have hdecode := Json.decode_pretty (reads_config c)
  rw [Config.parse, Config.write, hdecode]
  rfl

end ConsoleLink
