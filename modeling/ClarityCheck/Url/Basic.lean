import ClarityCheck.Url.Host

/-!
# URLs

A URL with its parts: scheme, server, path, query and fragment. A path either is made of segments or
is a text without structure; `render` writes the URL so that reading gives the same parts again.
-/

namespace ClarityCheck

namespace Url

/-- The kinds of schemes that are read differently. -/
inductive SchemeKind where
  /-- A scheme with a server of a known kind. -/
  | server
  /-- Files, which may have a server. -/
  | file
  /-- Every other scheme. -/
  | other
  deriving DecidableEq, Repr

/-- The kind of a scheme. -/
def kindOf (scheme : List Char) : SchemeKind :=
  if ["http".toList, "https".toList, "ws".toList, "wss".toList, "ftp".toList].contains scheme then
    .server
  else if scheme = "file".toList then .file
  else .other

/-- The port of a scheme that need not be written. -/
def defaultPort? (scheme : List Char) : Option Nat :=
  if scheme = "http".toList ∨ scheme = "ws".toList then some 80
  else if scheme = "https".toList ∨ scheme = "wss".toList then some 443
  else if scheme = "ftp".toList then some 21
  else none

/-- Who logs in: a name and a password, encoded. -/
structure Login where
  name : List Char
  password : Option (List Char)
  deriving DecidableEq, Repr

/-- The server of a URL. -/
structure Server where
  login : Option Login
  host : Option Host
  port : Option Nat
  deriving DecidableEq, Repr

/-- The path of a URL. -/
inductive UrlPath where
  /-- Segments, each behind a slash. -/
  | segments (segments : List (List Char))
  /-- A text without structure. -/
  | plain (text : List Char)
  deriving DecidableEq, Repr

end Url

/-- A URL. -/
structure Url where
  scheme : List Char
  server : Option Url.Server
  path : Url.UrlPath
  query : Option (List Char)
  fragment : Option (List Char)
  deriving DecidableEq, Repr

namespace Url

/-- A login as it is written in front of a host. -/
def Login.render (l : Login) : List Char :=
  l.name
    ++ (match l.password with
      | some p => ':' :: p
      | none => [])
    ++ ['@']

/-- A server as it is written. -/
def Server.render (s : Server) : List Char :=
  (match s.login with
    | some l => l.render
    | none => [])
    ++ (match s.host with
      | some h => h.render
      | none => [])
    ++ (match s.port with
      | some p => ':' :: Nat.toDigits 10 p
      | none => [])

/-- A path as it is written. -/
def UrlPath.render : UrlPath → List Char
  | .segments ss => ss.flatMap ('/' :: ·)
  | .plain t => t

/-- A part behind a sign, if there is one. -/
def renderOptional (sign : Char) : Option (List Char) → List Char
  | some t => sign :: t
  | none => []

/-- A URL as it is written. A path of a URL without a server must not look like one. -/
def render (u : Url) : List Char :=
  u.scheme ++ ':' ::
    (match u.server with
      | some s => '/' :: '/' :: s.render
      | none =>
        match u.path with
        | .segments ([] :: _ :: _) => ['/', '.']
        | _ => [])
    ++ u.path.render ++ renderOptional '?' u.query ++ renderOptional '#' u.fragment

/-- A URL as a string. -/
def text (u : Url) : String := String.ofList u.render

end Url

end ClarityCheck
