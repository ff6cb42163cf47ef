import DeviceLauncher.Path

/-!
# Home directories

`expandHome` replaces a leading `~`, alone or with the name of a user behind it, by a home
directory. A name that holds NUL cannot be looked up at all.
-/

namespace DeviceLauncher

/-- The text with its last slashes dropped. -/
def dropLastSlashes (text : List Char) : List Char :=
  (text.reverse.dropWhile (· == '/')).reverse

/-- The text with a leading `~`, and the name of a user up to the next slash, replaced by the home
directory of that name; `none` if the name holds NUL. With no home directory the text stays as it
is. -/
def expandHome (homeOf? : String → Option String) (text : String) : Option String :=
  match text.toList with
  | '~' :: rest =>
    let name := rest.takeWhile (· != '/')
    if name.contains '\x00' then none
    else
      match homeOf? (String.ofList name) with
      | none => some text
      | some home =>
        let expanded := dropLastSlashes home.toList ++ rest.dropWhile (· != '/')
        some (if expanded.isEmpty then "/" else String.ofList expanded)
  | _ => some text

end DeviceLauncher
