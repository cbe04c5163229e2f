import JsxLowering.Proofs.Loading.Program
import JsxLowering.Proofs.Equations
import JsxLowering.Transform
import Mathlib.Data.List.Infix

/-!
# Configurations that leave fields out

A configuration without a file name asks for the standard options with what it gives in their place, except for the
dialect: the standard file name leaves the loading of a source open, while the standard dialect is that of modules.  The
difference shows only in sources that have the word `await` and no other sign of being a module; where the names are
accepted there are such sources (`transformWithConfig_without_filename`).
-/

namespace JsxLowering

/-- The dialect of the standard file name. -/
def Dialect.standardFile : Dialect := { Dialect.standard with loading := .unambiguous }

/-- The standard options with what a configuration gives in their place. -/
def Config.substituted (config : Config) : Options :=
  { Options.standard with
    names :=
      { object := config.object.getD Options.standard.names.object
        component := config.component.getD Options.standard.names.component
        literal := config.literal.getD Options.standard.names.literal }
    sourceMap := config.sourceMap.getD Options.standard.sourceMap }

/-- Whether `await` is an operator outside functions makes no difference to how the source is read. -/
def ReadsAlike (source : String) : Prop :=
  parseAs false .standardFile source = parseAs true .standardFile source

/-- The source shows that it is a module when it is read as if it were none. -/
def ShowsModule (source : String) : Prop := Dialect.standardFile.ShowsModule source

instance (word : String) (text : List Char) : Decidable (NeverReads word text) :=
  decidable_of_iff (∀ rest ∈ text.tails, (scanToken rest).kind.isWord word = false) (by simp [NeverReads])

variable {config : Config} {text source : String}

theorem Config.toOptions_eq (h : config.filename = none) :
    config.toOptions = { config.substituted with dialect := .standardFile } := by
  have hdialect : dialectOfFileName? Options.standard.filename = some .standardFile := by decide +kernel
  unfold Config.toOptions
  rw [h]
  dsimp only [Option.getD_none]
  rw [hdialect]
  rfl

theorem parse_standardFile (h : ReadsAlike source ∨ ShowsModule source) :
    parse .standardFile source = parse .standard source := by
  obtain halike | ⟨first, hfirst, hmodule⟩ := h
  · exact parse_unambiguous_of_same halike
  · exact parse_unambiguous_of_isModule hfirst hmodule

/-- The two dialects differ in how a source is read, not in what is done with it then. -/
theorem transform_standardFile (config : Config) (h : parse .standardFile source = parse .standard source) :
    transform { config.substituted with dialect := .standardFile } source = transform config.substituted source := by
  have hclean : parseClean { config.substituted with dialect := .standardFile } source =
      parseClean config.substituted source := by
    delta parseClean
    dsimp only
    rw [h]
    rfl
  delta transform
  dsimp only
  rw [hclean]
  rfl

private theorem transform_of_refused {options : Options} {error : OptionsError} (h : options.validate = .error error) :
    transform options source = .error (.options error) := by
  delta transform
  rw [h]

private theorem exists_transform_eq_ok_iff {options : Options} :
    (∃ output, transform options source = .ok output) ↔
      options.validate = .ok () ∧ (parse options.dialect source).toOption.any (·.faults.isEmpty) = true := by
  have hclean : (∃ parsed, parseClean options source = .ok parsed) ↔
      (parse options.dialect source).toOption.any (·.faults.isEmpty) = true := by
    delta parseClean
    cases parse options.dialect source with
    | error faults => simp [Except.toOption]
    | ok parsed => cases h : parsed.faults.isEmpty <;> simp [Except.toOption, h]
  simp [transform_eq_ok_iff, hclean]

/-- A script with a variable that no module can have. -/
private def awaitVariable : String := "var await = <a/>;"

private theorem transform_awaitVariable_ne {options : Options} (hdialect : options.dialect = .standard)
    (hvalid : options.validate = .ok ()) :
    transform { options with dialect := .standardFile } awaitVariable ≠ transform options awaitVariable := by
  have hscript : (parse .standardFile awaitVariable).toOption.any (·.faults.isEmpty) = true := by decide +kernel
  have hmodule : (parse .standard awaitVariable).toOption.any (·.faults.isEmpty) = false := by decide +kernel
  obtain ⟨output, houtput⟩ : ∃ output, transform { options with dialect := .standardFile } awaitVariable = .ok output :=
    exists_transform_eq_ok_iff.2 ⟨hvalid, hscript⟩
  intro hsame
  have hclean := (exists_transform_eq_ok_iff.1 ⟨output, hsame.symm.trans houtput⟩).2
  rw [hdialect, hmodule] at hclean
  cases hclean

/-- A configuration without a file name does what the standard options with its fields in their place do, apart from the
dialect.  All sources that show to be modules give the same, and all that are read alike whatever `await` is, such as
those without the word; all sources do only if the names are refused anyway. -/
theorem transformWithConfig_without_filename (hconfig : Config.ofJson text = .ok config)
    (hfilename : config.filename = none) :
    (∀ source, transformWithConfig text source =
      transform { config.substituted with dialect := .standardFile } source) ∧
    (∀ source, NeverReads "await" source.toList → ReadsAlike source) ∧
    (∀ source, ReadsAlike source ∨ ShowsModule source →
      transformWithConfig text source = transform config.substituted source) ∧
    ((∀ source, transformWithConfig text source = transform config.substituted source) ↔
      config.substituted.validate ≠ .ok ()) := by
  have hasked : ∀ source, transformWithConfig text source =
      transform { config.substituted with dialect := .standardFile } source := by
    intro source
    rw [← Config.toOptions_eq hfilename]
    unfold transformWithConfig readConfig
    rw [hconfig]
  refine ⟨hasked, fun source hnever => parseAs_eq_of_neverReads hnever _ _ _, fun source hsource => ?_,
    fun hall hvalid => ?_, fun hrefused source => ?_⟩
  · exact (hasked source).trans (transform_standardFile config (parse_standardFile hsource))
  · exact transform_awaitVariable_ne rfl hvalid ((hasked awaitVariable).symm.trans (hall awaitVariable))
  · cases hvalidate : config.substituted.validate with
    | ok _ => exact absurd hvalidate hrefused
    | error error =>
      rw [hasked source, transform_of_refused hvalidate]
      exact transform_of_refused hvalidate

theorem transformWithConfig_empty :
    transformWithConfig "\x7b\x7d" "x = <this a>b</this>;" = transform .standard "x = <this a>b</this>;" ∧
    transformWithConfig "\x7b\x7d" "import 'a'; await b(<c/>);" = transform .standard "import 'a'; await b(<c/>);" ∧
    ∃ source, transformWithConfig "\x7b\x7d" source ≠ transform .standard source := by
  have hconfig : Config.ofJson "\x7b\x7d" = .ok {} := by decide +kernel
  obtain ⟨-, halike, hagree, hexact⟩ := transformWithConfig_without_filename hconfig rfl
  refine ⟨hagree _ (.inl (halike _ (by decide +kernel))), hagree _ (.inr ?_), not_forall.1 fun hall => ?_⟩
  · have hfirst : (parseAs false .standardFile "import 'a'; await b(<c/>);").toOption.map (·.tree.isModule) =
        some true := by decide +kernel
    exact ok_of_toOption hfirst
  · exact hexact.1 hall (by decide +kernel)

end JsxLowering
