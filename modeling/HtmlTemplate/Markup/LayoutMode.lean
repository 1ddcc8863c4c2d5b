import HtmlTemplate.Ascii
import HtmlTemplate.Markup.Token
import HtmlTemplate.Notice

/-!
# Layout modes

`Doctype.compatMode` tells from a document type declaration how far the page is laid out by the
rules of old browsers. Identifiers compare without regard to the case of ASCII letters.
-/

namespace HtmlTemplate.Markup.Doctype

/-- The public identifiers of pages for old browsers. -/
def oldPublicIds : List String :=
  ["-//w3o//dtd w3 html strict 3.0//en//", "-/w3c/dtd html 4.0 transitional/en", "html"]

/-- The system identifier of pages for old browsers. -/
def oldSystemId : String :=
  "http:" ++ "//www.ibm.com/data/dtd/v11/ibmxhtml1-transitional.dtd"

/-- How the public identifiers of pages for old browsers start. -/
def oldPublicLeads : List String :=
  ["-//as//dtd html 3.0 aswedit + extensions//",
   "-//advasoft ltd//dtd html 3.0 aswedit + extensions//", "-//ietf//dtd html 2.0 level 1//",
   "-//ietf//dtd html 2.0 level 2//", "-//ietf//dtd html 2.0 strict level 1//",
   "-//ietf//dtd html 2.0 strict level 2//", "-//ietf//dtd html 2.0 strict//",
   "-//ietf//dtd html 2.0//", "-//ietf//dtd html 2.1e//", "-//ietf//dtd html 3.0//",
   "-//ietf//dtd html 3.2 final//", "-//ietf//dtd html 3.2//", "-//ietf//dtd html 3//",
   "-//ietf//dtd html level 0//", "-//ietf//dtd html level 1//", "-//ietf//dtd html level 2//",
   "-//ietf//dtd html level 3//", "-//ietf//dtd html strict level 0//",
   "-//ietf//dtd html strict level 1//", "-//ietf//dtd html strict level 2//",
   "-//ietf//dtd html strict level 3//", "-//ietf//dtd html strict//", "-//ietf//dtd html//",
   "-//metrius//dtd metrius presentational//",
   "-//microsoft//dtd internet explorer 2.0 html strict//",
   "-//microsoft//dtd internet explorer 2.0 html//",
   "-//microsoft//dtd internet explorer 2.0 tables//",
   "-//microsoft//dtd internet explorer 3.0 html strict//",
   "-//microsoft//dtd internet explorer 3.0 html//",
   "-//microsoft//dtd internet explorer 3.0 tables//",
   "-//netscape comm. corp.//dtd html//", "-//netscape comm. corp.//dtd strict html//",
   "-//o'reilly and associates//dtd html 2.0//",
   "-//o'reilly and associates//dtd html extended 1.0//",
   "-//o'reilly and associates//dtd html extended relaxed 1.0//",
   "-//softquad software//dtd hotmetal pro 6.0::19990601::extensions to html 4.0//",
   "-//softquad//dtd hotmetal pro 4.0::19971010::extensions to html 4.0//",
   "-//spyglass//dtd html 2.0 extended//", "-//sq//dtd html 2.0 hotmetal + extensions//",
   "-//sun microsystems corp.//dtd hotjava html//",
   "-//sun microsystems corp.//dtd hotjava strict html//",
   "-//w3c//dtd html 3 1995-03-24//", "-//w3c//dtd html 3.2 draft//",
   "-//w3c//dtd html 3.2 final//", "-//w3c//dtd html 3.2//", "-//w3c//dtd html 3.2s draft//",
   "-//w3c//dtd html 4.0 frameset//", "-//w3c//dtd html 4.0 transitional//",
   "-//w3c//dtd html experimental 19960712//", "-//w3c//dtd html experimental 970421//",
   "-//w3c//dtd w3 html//", "-//w3o//dtd w3 html 3.0//", "-//webtechs//dtd mozilla html 2.0//",
   "-//webtechs//dtd mozilla html//"]

/-- How the public identifiers of transitional pages start. -/
def transitionalLeads : List String :=
  ["-//w3c//dtd xhtml 1.0 frameset//", "-//w3c//dtd xhtml 1.0 transitional//"]

/-- How the public identifiers start of pages that are transitional if they have a system identifier
and for old browsers otherwise. -/
def undecidedLeads : List String :=
  ["-//w3c//dtd html 4.01 frameset//", "-//w3c//dtd html 4.01 transitional//"]

/-- Whether a text starts with one of the leads. -/
def startsWithAny (leads : List String) (text : String) : Bool :=
  leads.any fun lead => lead.toList.isPrefixOf text.toList

/-- The layout mode for a public identifier, in lower case, that no rule of higher rank covers. -/
def publicMode (publicId : String) (hasSystemId : Bool) : CompatMode :=
  if startsWithAny oldPublicLeads publicId then .quirks
  else if startsWithAny transitionalLeads publicId then .limitedQuirks
  else if startsWithAny undecidedLeads publicId then
    if hasSystemId then .limitedQuirks else .quirks
  else .noQuirks

/-- The layout mode that a declaration asks for. -/
def compatMode (doctype : Doctype) : CompatMode :=
  let publicId := doctype.publicId.map Ascii.lower
  let systemId := doctype.systemId.map Ascii.lower
  if doctype.forceQuirks || doctype.name != some "html" then .quirks
  else if publicId.any oldPublicIds.contains then .quirks
  else if systemId == some oldSystemId then .quirks
  else publicId.elim .noQuirks (publicMode · systemId.isSome)

end HtmlTemplate.Markup.Doctype
