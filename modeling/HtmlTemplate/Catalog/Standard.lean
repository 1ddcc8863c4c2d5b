import HtmlTemplate.Catalog

/-!
# The standard catalog

`Catalog.standard` knows the attributes and elements that the template language treats specially.
Its tables are registered in the order below, which is also their precedence.
-/

namespace HtmlTemplate.Catalog.Standard

/-- Attribute names that collide with a reserved word of the template language. -/
def reservedNames : List String :=
  ["cite", "class", "data", "for", "form", "label", "method", "object", "open", "slot", "span",
   "style", "title", "type"]

/-- Accessibility attributes, which live in the `Aria` module. -/
def ariaNames : List String :=
  ["aria-activedescendant", "aria-atomic", "aria-autocomplete", "aria-braillelabel",
   "aria-brailleroledescription", "aria-busy", "aria-checked", "aria-colcount",
   "aria-colindextext", "aria-colspan", "aria-controls", "aria-current", "aria-describedby",
   "aria-description", "aria-details", "aria-disabled", "aria-errormessage", "aria-expanded",
   "aria-flowto", "aria-haspopup", "aria-hidden", "aria-invalid", "aria-keyshortcuts",
   "aria-label", "aria-labelledby", "aria-level", "aria-live", "aria-modal", "aria-multiline",
   "aria-multiselectable", "aria-orientation", "aria-owns", "aria-placeholder", "aria-posinset",
   "aria-pressed", "aria-readonly", "aria-relevant", "aria-required", "aria-roledescription",
   "aria-rowcount", "aria-rowindex", "aria-rowindextext", "aria-rowspan", "aria-selected",
   "aria-setsize", "aria-sort", "aria-valuemax", "aria-valuemin", "aria-valuenow",
   "aria-valuetext"]

/-- Attributes of the htmx library, which live in the `Hx` module. -/
def hxNames : List String :=
  ["hx-boost", "hx-confirm", "hx-delete", "hx-disable", "hx-disinherit", "hx-encoding",
   "hx-ext", "hx-get", "hx-headers", "hx-history", "hx-history-elt", "hx-include",
   "hx-indicator", "hx-on", "hx-params", "hx-patch", "hx-post", "hx-preload", "hx-preserve",
   "hx-prompt", "hx-push-url", "hx-put", "hx-replace-url", "hx-request", "hx-select",
   "hx-select-oob", "hx-sse-connect", "hx-sse-swap", "hx-swap", "hx-swap-oob", "hx-sync",
   "hx-target", "hx-trigger", "hx-validate", "hx-vals", "hx-ws-connect", "hx-ws-send"]

/-- Attributes whose value is one of a closed set. -/
def variantNames : List String :=
  ["autocapitalize", "autocomplete", "capture", "crossorigin", "decoding", "dir", "enctype",
   "fetchpriority", "formenctype", "formmethod", "hidden", "http_equiv", "inputmode", "kind",
   "low", "method", "preload", "referrerpolicy", "role", "translate", "wrap"]

/-- Attributes whose value is a number. -/
def integerNames : List String :=
  ["cols", "colspan", "maxlength", "minlength", "rows", "rowspan", "span", "start", "tabindex"]

/-- Attributes that count by being there, whatever their value. -/
def booleanNames : List String :=
  ["async", "autofocus", "autoplay", "checked", "controls", "default", "defer", "disabled",
   "draggable", "formnovalidate", "ismap", "loop", "multiple", "muted", "novalidate", "open",
   "playsinline", "readonly", "required", "reversed", "selected"]

/-- Elements that never have children. -/
def voidTags : List String :=
  ["area", "base", "br", "col", "embed", "hr", "img", "input", "link", "meta", "source",
   "track", "wbr"]

/-- Elements whose children are read as one string. -/
def textTags : List String :=
  ["option", "script", "style", "textarea", "title"]

end HtmlTemplate.Catalog.Standard

namespace HtmlTemplate.Catalog

open Standard in
/-- The catalog of the template language. -/
def standard : Catalog :=
  empty
    |>.registerNames .suffix reservedNames
    |>.registerNames .aria ariaNames
    |>.registerNames .hx hxNames
    |>.registerValues .poly variantNames
    |>.registerValues .integer integerNames
    |>.registerValues .boolean booleanNames
    |>.registerTags .void voidTags
    |>.registerTags .text textTags

end HtmlTemplate.Catalog
