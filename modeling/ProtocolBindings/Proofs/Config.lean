import ProtocolBindings.Config
import ProtocolBindings.Proofs.Json.Reader
import ProtocolBindings.Proofs.Json.Whole

/-!
# Options of a configuration

The options of the output are those of the member that states them, whatever else a
configuration says, or the options that hold by default.  An output that exists is
protected unless a mode is stated that names no protection.  The names of the interfaces
come from the members or hold by default, so that whole members give whole names.
-/

namespace ProtocolBindings

theorem Section.get_eq_ok_iff {α : Type} {options : Section α} {value : α} :
    options.get = .ok value ↔ options = .options value := by
  cases options <;> simp [Section.get]

namespace OutputMode

/-- Whether a value states a mode in which an output that exists is overwritten: the name
of that mode, or no text at all. -/
def Overwrites : Json → Prop
  | .text name => name = "force"
  | _ => True

theorem ofJson_ok {value : Json} {mode : OutputMode} (named : ofJson value = .ok mode) :
    mode ≠ .errorIfExists ↔ Overwrites value := by
  cases value with
  | text name =>
      rw [ofJson] at named
      split at named
      · rename_i found
        cases named
        have differs : Text.ofString "error" ≠ Text.ofString "force" := by decide
        rw [Overwrites, Text.string?_eq_some_iff.mp found]
        exact ⟨fun refuses => absurd rfl refuses, fun same => absurd same differs⟩
      · rename_i found
        cases named
        exact iff_of_true (by decide) (Text.string?_eq_some_iff.mp found)
      · cases named
  | null | bool _ | integer _ | number _ | array _ | object _ =>
      cases named
      exact iff_of_true (by simp) trivial

end OutputMode

namespace Config

variable {config middle final : Config} {key : Text} {value : Json} {options : OutputOptions}
variable {members : List (Text × Json)}

/-- The mode that a configuration states for the output. -/
def statedMode? : Json → Option Json
  | .object members =>
      match Json.lookup "output" members with
      | some (.object options) => Json.lookup "mode" options
      | _ => none
  | _ => none

/-- The member that states the options of the output. -/
def outputMember (stated : List (Text × Json)) : Text × Json := ("output", .object stated)

theorem eq_outputMember_iff {stated : List (Text × Json)} :
    (key, value) = outputMember stated ↔
      key.string? = some "output" ∧ value = .object stated := by
  rw [outputMember, Prod.mk.injEq, Text.string?_eq_some_iff]

/-- Attributes that are replaced as a whole hold no options of the output. -/
theorem output_ofAttributes (attributes : List (Text × Json)) :
    (ofAttributes attributes).output ≠ .options options := by
  unfold ofAttributes
  cases Json.lookup "output" attributes <;> exact nofun

theorem output_of_assign_of_ne (other : key.string? ≠ some "output")
    (assigned : config.assign key value = .ok middle)
    (given : middle.output = .options options) : config.output = .options options := by
  unfold assign at assigned
  split at assigned
  case h_8 =>
    split at assigned
    · obtain ⟨formatter, _, ended⟩ := bind_eq_ok_iff.mp assigned
      cases ended
      exact given
    · cases assigned
      split at given
      · exact given
      · exact given
  case h_9 named => exact absurd named other
  case h_11 =>
    split at assigned
    · cases assigned
      exact absurd given (output_ofAttributes _)
    · cases assigned
  all_goals
    cases assigned
    try exact given

theorem assign_of_output (named : key.string? = some "output") :
    config.assign key value = match value with
      | .object members => do
          let options ← OutputOptions.ofMembers members
          return { config with output := .options options }
      | value => .ok (if config.output = .absent then config
          else { config with output := .other value }) := by
  unfold assign
  rw [named]
  rfl

/-- A member leaves the options of the output as they are, or is the one that states them. -/
theorem output_of_assign (assigned : config.assign key value = .ok middle)
    (given : middle.output = .options options) :
    (config.output = .options options ∧ ∀ stated, (key, value) ≠ outputMember stated) ∨
    ∃ stated, (key, value) = outputMember stated ∧
      OutputOptions.ofMembers stated = .ok options := by
  simp only [ne_eq, eq_outputMember_iff]
  by_cases output : key.string? = some "output"
  · rw [assign_of_output output] at assigned
    split at assigned
    · obtain ⟨read, succeeded, ended⟩ := bind_eq_ok_iff.mp assigned
      cases ended
      cases given
      exact .inr ⟨_, ⟨output, rfl⟩, succeeded⟩
    · rename_i noObject
      refine .inl ⟨?_, fun stated same => noObject stated same.2⟩
      cases assigned
      split at given
      · exact given
      · cases given
  · exact .inl ⟨output_of_assign_of_ne output assigned given, fun _ same => output same.1⟩

/-- The options of the output are those that held before some members, or those that one of
the members states. -/
theorem output_of_members
    (read : members.foldlM (fun config (key, value) => config.assign key value) config =
      .ok final)
    (given : final.output = .options options) :
    (config.output = .options options ∧ ∀ stated, outputMember stated ∉ members) ∨
    ∃ stated, outputMember stated ∈ members ∧ OutputOptions.ofMembers stated = .ok options := by
  induction members generalizing config with
  | nil =>
      cases read
      exact .inl ⟨given, fun _ => List.not_mem_nil⟩
  | cons member members ih =>
      obtain ⟨key, value⟩ := member
      rw [List.foldlM_cons] at read
      obtain ⟨middle, assigned, rest⟩ := bind_eq_ok_iff.mp read
      rcases ih rest with ⟨kept, none⟩ | ⟨stated, later, succeeded⟩
      · rcases output_of_assign assigned kept with ⟨same, differs⟩ | ⟨stated, same, succeeded⟩
        · refine .inl ⟨same, fun stated => ?_⟩
          exact List.not_mem_cons_of_ne_of_not_mem (differs stated).symm (none stated)
        · exact .inr ⟨stated, List.mem_cons.mpr (.inl same.symm), succeeded⟩
      · exact .inr ⟨stated, List.mem_cons_of_mem _ later, succeeded⟩

theorem statedMode?_of_outputMember {stated : List (Text × Json)}
    (distinct : (members.map Prod.fst).Nodup) (member : outputMember stated ∈ members) :
    statedMode? (.object members) = Json.lookup "mode" stated := by
  rw [statedMode?, Json.lookup_of_mem distinct member]

theorem statedMode?_of_no_outputMember (none : ∀ stated, outputMember stated ∉ members) :
    statedMode? (.object members) = Option.none := by
  rw [statedMode?]
  split
  · rename_i stated found
    exact absurd (Json.mem_of_lookup found) (none stated)
  · rfl

/-- A configuration lets an output that exists be overwritten exactly if it states a mode
for that, which every value does that is no text. -/
theorem mode_ne_errorIfExists_iff (distinct : (members.map Prod.fst).Nodup)
    (read : ofJson (.object members) = .ok config) (given : config.output = .options options) :
    options.mode ≠ .errorIfExists ↔
      ∃ mode, statedMode? (.object members) = some mode ∧ OutputMode.Overwrites mode := by
  have folded : members.foldlM (fun config (key, value) => assign config key value) {} =
      .ok config := read
  rcases output_of_members folded given with
    ⟨default, none⟩ | ⟨stated, member, succeeded⟩
  · cases default
    simp [statedMode?_of_no_outputMember none]
  · rw [statedMode?_of_outputMember distinct member]
    rw [OutputOptions.ofMembers] at succeeded
    cases found : Json.lookup "mode" stated with
    | none =>
        rw [found] at succeeded
        cases succeeded
        simp
    | some value =>
        rw [found] at succeeded
        obtain ⟨mode, named, ended⟩ := bind_eq_ok_iff.mp succeeded
        cases ended
        simpa using OutputMode.ofJson_ok named

/-! ## Names of the interfaces -/

/-- The names of both interfaces are whole. -/
structure NamesWhole (config : Config) : Prop where
  server : config.serverInterfaceName.Whole
  client : config.clientInterfaceName.Whole

theorem namesWhole_default : NamesWhole {} :=
  ⟨.text (Text.whole_ofString _), .text (Text.whole_ofString _)⟩

theorem namesWhole_ofAttributes {attributes : List (Text × Json)}
    (whole : Json.MembersWhole attributes) : (ofAttributes attributes).NamesWhole := by
  have option (key : Text) {default : Json} (own : default.Whole) :
      ((Json.lookup key attributes).getD default).Whole := by
    cases found : Json.lookup key attributes with
    | none => exact own
    | some value => exact whole.lookup found
  exact ⟨option _ namesWhole_default.server, option _ namesWhole_default.client⟩

theorem NamesWhole.assign (names : config.NamesWhole) (whole : value.Whole)
    (assigned : config.assign key value = .ok middle) : middle.NamesWhole := by
  unfold Config.assign at assigned
  split at assigned
  case h_6 =>
    cases assigned
    exact ⟨whole, names.client⟩
  case h_7 =>
    cases assigned
    exact ⟨names.server, whole⟩
  case h_8 | h_9 =>
    split at assigned
    · obtain ⟨_, _, ended⟩ := bind_eq_ok_iff.mp assigned
      cases ended
      exact ⟨names.server, names.client⟩
    · cases assigned
      split <;> exact ⟨names.server, names.client⟩
  case h_11 =>
    split at assigned
    · cases assigned
      exact namesWhole_ofAttributes (Json.whole_object_iff.mp whole)
    · cases assigned
  all_goals
    cases assigned
    try exact ⟨names.server, names.client⟩

theorem NamesWhole.of_members (values : ∀ member ∈ members, member.2.Whole)
    (names : config.NamesWhole)
    (read : members.foldlM (fun config (key, value) => config.assign key value) config =
      .ok final) : final.NamesWhole := by
  induction members generalizing config with
  | nil =>
      cases read
      exact names
  | cons member members ih =>
      obtain ⟨own, later⟩ := List.forall_mem_cons.mp values
      rw [List.foldlM_cons] at read
      obtain ⟨middle, assigned, rest⟩ := bind_eq_ok_iff.mp read
      exact ih later (names.assign own assigned) rest

/-- A whole value gives the interfaces whole names. -/
theorem namesWhole_ofJson (whole : value.Whole) (read : ofJson value = .ok config) :
    config.NamesWhole := by
  obtain ⟨members, taken, folded⟩ := bind_eq_ok_iff.mp read
  exact .of_members (whole.members taken).values namesWhole_default folded

end Config

end ProtocolBindings
