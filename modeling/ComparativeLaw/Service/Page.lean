import ComparativeLaw.Service.Description
import ComparativeLaw.Service.Message

namespace ComparativeLaw

/-- The pages that document the service: the description for programs, two views of it for readers,
and the page to which a view returns from a sign-in. -/
inductive Page where
  | description
  | view
  | signIn
  | reference
deriving DecidableEq, Repr

namespace Page

def path : Page → String
  | description => "/openapi.json"
  | view => "/docs"
  | signIn => "/docs/oauth2-redirect"
  | reference => "/redoc"

def methods : List String := ["GET", "HEAD"]

def atPath? (path : List Char) : Option Page :=
  [description, view, signIn, reference].find? fun p => p.path.toList = path

/-- The address of a file on another host. -/
def address (host path : String) : String := "https:" ++ "//" ++ host ++ path

def package (path : String) : String := address "cdn.jsdelivr.net" ("/npm/" ++ path)

def icon : String := address "fastapi.tiangolo.com" "/img/favicon.png"

/-- A block of lines with a margin of four blanks, unless they are empty. -/
def block (lines : List String) : String :=
  let margin := "    "
  let written (line : String) : String := if line.isEmpty then "\n" else margin ++ line ++ "\n"
  "\n" ++ String.join (lines.map written) ++ margin

def pageTitle (view : String) : String := s!"<title>{Description.title} - {view}</title>"

def referenceHead : List String :=
  ["<!DOCTYPE html>",
   "<html>",
   "<head>",
   pageTitle "ReDoc",
   "<!-- needed for adaptive design -->",
   "<meta charset=\"utf-8\"/>",
   "<meta name=\"viewport\" content=\"width=device-width, initial-scale=1\">"]

def fontsLine : String :=
  let family := "Montserrat:300,400,700|Roboto:300,400,700"
  "<link href=\"" ++ address "fonts.googleapis.com" ("/css?family=" ++ family) ++
    "\" rel=\"stylesheet\">"

def referenceRest : List String :=
  ["<link rel=\"shortcut icon\" href=\"" ++ icon ++ "\">",
   "<!--",
   "ReDoc doesn't change outer page styles",
   "-->",
   "<style>",
   "  body \x7b",
   "    margin: 0;",
   "    padding: 0;",
   "  \x7d",
   "</style>",
   "</head>",
   "<body>",
   "<noscript>",
   "    ReDoc requires Javascript to function. Please enable it to browse the documentation.",
   "</noscript>",
   "<redoc spec-url=\"" ++ description.path ++ "\"></redoc>",
   "<script src=\"" ++ package "redoc@2/bundles/redoc.standalone.js" ++ "\"> </script>",
   "</body>",
   "</html>"]

/-- The settings of the view by name. -/
def settings : List (String × String) :=
  [("dom_id", "\"#swagger-ui\""), ("layout", "\"BaseLayout\""), ("deepLinking", "true"),
   ("showExtensions", "true"), ("showCommonExtensions", "true")]

def settingsText : String :=
  String.join (settings.map fun s => "\"" ++ s.1 ++ "\": " ++ s.2 ++ ",\n")

def viewLines : List String :=
  let file (kind : String) : String := package ("swagger-ui-dist@5/swagger-ui" ++ kind)
  ["<!DOCTYPE html>",
   "<html>",
   "<head>",
   "<meta name=\"viewport\" content=\"width=device-width, initial-scale=1.0\">",
   "<link type=\"text/css\" rel=\"stylesheet\" href=\"" ++ file ".css" ++ "\">",
   "<link rel=\"shortcut icon\" href=\"" ++ icon ++ "\">",
   pageTitle "Swagger UI",
   "</head>",
   "<body>",
   "<div id=\"swagger-ui\">",
   "</div>",
   "<script src=\"" ++ file "-bundle.js" ++ "\"></script>",
   "<!-- \x60SwaggerUIBundle\x60 is now available on the page -->",
   "<script>",
   "const ui = SwaggerUIBundle(\x7b",
   "    url: '" ++ description.path ++ "',",
   settingsText ++ "oauth2RedirectUrl: window.location.origin + '" ++ signIn.path ++ "',",
   "presets: [",
   "    SwaggerUIBundle.presets.apis,",
   "    SwaggerUIBundle.SwaggerUIStandalonePreset",
   "    ],",
   "\x7d)",
   "</script>",
   "</body>",
   "</html>"]

def signInLines : List String :=
  ["<!doctype html>",
   "<html lang=\"en-US\">",
   "<head>",
   "    <title>Swagger UI: OAuth2 Redirect</title>",
   "</head>",
   "<body>",
   "<script>",
   "    'use strict';",
   "    function run () \x7b",
   "        var oauth2 = window.opener.swaggerUIRedirectOauth2;",
   "        var sentState = oauth2.state;",
   "        var redirectUrl = oauth2.redirectUrl;",
   "        var isValid, qp, arr;",
   "",
   "        if (/code|token|error/.test(window.location.hash)) \x7b",
   "            qp = window.location.hash.substring(1).replace('?', '&');",
   "        \x7d else \x7b",
   "            qp = location.search.substring(1);",
   "        \x7d",
   "",
   "        arr = qp.split(\"&\");",
   "        arr.forEach(function (v,i,_arr) \x7b _arr[i] = '\"' + " ++
     "v.replace('=', '\":\"') + '\"';\x7d);",
   "        qp = qp ? JSON.parse('\x7b' + arr.join() + '\x7d',",
   "                function (key, value) \x7b",
   "                    return key === \"\" ? value : decodeURIComponent(value);",
   "                \x7d",
   "        ) : \x7b\x7d;",
   "",
   "        isValid = qp.state === sentState;",
   "",
   "        if ((",
   "          oauth2.auth.schema.get(\"flow\") === \"accessCode\" ||",
   "          oauth2.auth.schema.get(\"flow\") === \"authorizationCode\" ||",
   "          oauth2.auth.schema.get(\"flow\") === \"authorization_code\"",
   "        ) && !oauth2.auth.code) \x7b",
   "            if (!isValid) \x7b",
   "                oauth2.errCb(\x7b",
   "                    authId: oauth2.auth.name,",
   "                    source: \"auth\",",
   "                    level: \"warning\",",
   "                    message: \"Authorization may be unsafe, passed state was changed in " ++
     "server. The passed state wasn't returned from auth server.\"",
   "                \x7d);",
   "            \x7d",
   "",
   "            if (qp.code) \x7b",
   "                delete oauth2.state;",
   "                oauth2.auth.code = qp.code;",
   "                oauth2.callback(\x7bauth: oauth2.auth, redirectUrl: redirectUrl\x7d);",
   "            \x7d else \x7b",
   "                let oauthErrorMsg;",
   "                if (qp.error) \x7b",
   "                    oauthErrorMsg = \"[\"+qp.error+\"]: \" +",
   "                        (qp.error_description ? qp.error_description+ \". \" : " ++
     "\"no accessCode received from the server. \") +",
   "                        (qp.error_uri ? \"More info: \"+qp.error_uri : \"\");",
   "                \x7d",
   "",
   "                oauth2.errCb(\x7b",
   "                    authId: oauth2.auth.name,",
   "                    source: \"auth\",",
   "                    level: \"error\",",
   "                    message: oauthErrorMsg || \"[Authorization failed]: " ++
     "no accessCode received from the server.\"",
   "                \x7d);",
   "            \x7d",
   "        \x7d else \x7b",
   "            oauth2.callback(\x7bauth: oauth2.auth, token: qp, isValid: isValid, " ++
     "redirectUrl: redirectUrl\x7d);",
   "        \x7d",
   "        window.close();",
   "    \x7d",
   "",
   "    if (document.readyState !== 'loading') \x7b",
   "        run();",
   "    \x7d else \x7b",
   "        document.addEventListener('DOMContentLoaded', function () \x7b",
   "            run();",
   "        \x7d);",
   "    \x7d",
   "</script>",
   "</body>",
   "</html>"]

def content : Page → Content
  | description => .json Description.toJson
  | view => .plain (block viewLines)
  | signIn => .plain (block signInLines ++ "    ")
  | reference => .plain (block referenceHead ++ block [fontsLine] ++ block referenceRest)

end Page
end ComparativeLaw
