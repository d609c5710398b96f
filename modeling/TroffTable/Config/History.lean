import TroffTable.Config.Settings

/-! Histories of options. Options are made anew, updated or configured, never changed in
place; a step that fails leaves them as they were. -/

namespace TroffTable

inductive OptionsStep where
  | create (arguments : List (List Char × Value))
  | update (arguments : List (List Char × Value))
  | assign (name : List Char)
  | configure (entries : Entries)

inductive StepError where
  | rejected (e : OptionsError)
  | frozen (name : List Char)
  | setting (e : SettingError)

def StepError.message : StepError → String
  | .rejected e => e.message
  | .frozen name => "cannot assign to field " ++ String.ofList (quoted name)
  | .setting e => e.message

def OptionsStep.run (o : Options) : OptionsStep → Except StepError Options
  | .create arguments => (Options.create arguments).mapError .rejected
  | .update arguments => (o.update arguments).mapError .rejected
  | .assign name => .error (.frozen name)
  | .configure entries => (o.configure entries).mapError .setting

def OptionsStep.next (o : Options) (step : OptionsStep) : Options :=
  match step.run o with
  | .ok o' => o'
  | .error _ => o

def Options.after (o : Options) (steps : List OptionsStep) : Options :=
  steps.foldl OptionsStep.next o

end TroffTable
