/-!
# The options before the command

On the command line the launcher's own options stand before the name of a command; what follows
the name belongs to the command. `split` takes the words of an argument list apart there. It needs
to know one thing about options: the word after `--config` is its value, whatever it looks like.
-/

namespace DeviceLauncher.CommandLine

/-- Whether a word is an option by its look: it starts with `-` and is more than that. -/
def looksOptional (word : String) : Bool := word.toList.head? == some '-' && word != "-"

/-- The leading options with their values, and the words from the command on. -/
def split : List String → List String × List String
  | [] => ([], [])
  | word :: rest =>
    if !looksOptional word then ([], word :: rest)
    else if word = "--config" then
      match rest with
      | [] => ([word], [])
      | value :: rest =>
        let (options, rest) := split rest
        (word :: value :: options, rest)
    else
      let (options, rest) := split rest
      (word :: options, rest)

/-- No word is lost, and none changes its place. -/
theorem split_fst_append_snd (words : List String) :
    (split words).1 ++ (split words).2 = words := by
  fun_induction split words <;> simp_all

end DeviceLauncher.CommandLine
