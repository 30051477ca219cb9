import Clippings.Proofs.Command.Run
/-!
How a run of the program ends: as it should, or it breaks down for one of the known reasons.
-/

namespace Clippings

/-- How a run of the program may end: it is complete, an error was told and it was aborted, it was
called in a wrong way, or it tells by its status that a template is invalid. -/
inductive Outcome.IsProper (palette : Markup.Palette) (words : List Text) : Outcome → Prop
  | completed (left : Transcript) :
      IsProper palette words { output := left.output, reports := Text.reported left.reports }
  | aborted {left : Transcript} (told : left.EndsInError palette) :
      IsProper palette words
        { output := left.output, reports := Text.reported (left.reports ++ "Aborted!\n"),
          status := 1 }
  | misused (left : Transcript) (form : CommandForm) (misuse : Misuse) :
      IsProper palette words
        { output := left.output,
          reports := Text.reported (left.reports ++ form.misuseReport misuse), status := 2 }
  | invalid (left : Transcript) {arguments : Arguments}
      (call : Command.callOf? words = some (.validate, arguments)) :
      IsProper palette words
        { output := left.output, reports := Text.reported left.reports, status := 1 }

namespace Command

end Command

end Clippings
