/-
Built-in templates of transfer objects. One text a line; braces are written by their code.
-/
import Scaffold.Template.Basic

namespace Scaffold
namespace Template
namespace Source

def csharpDto : String := ofLines [
  "// <auto-generated />",
  "\x7b% for line in imports %\x7d",
  "\x7b\x7b line \x7d\x7d",
  "\x7b% endfor %\x7d",
  "",
  "namespace \x7b\x7b namespace \x7d\x7d;",
  "",
  "/// <summary>",
  "/// \x7b\x7b entity_name \x7d\x7d \x7b\x7b kind | lower \x7d\x7d model",
  "\x7b% if summary %\x7d",
  "/// \x7b\x7b summary \x7d\x7d",
  "\x7b% endif %\x7d",
  "/// </summary>",
  "public class \x7b\x7b type_name \x7d\x7d\x7b\x7b base_class \x7d\x7d",
  "\x7b",
  "\x7b% for field in fields %\x7d",
  "\x7b% if field.comment %\x7d",
  "    /// <summary>",
  "    /// \x7b\x7b field.comment \x7d\x7d",
  "    /// </summary>",
  "\x7b% endif %\x7d",
  "\x7b% if field.is_required %\x7d",
  "    [Required]",
  "\x7b% endif %\x7d",
  "\x7b% if field.max_length and field.is_string %\x7d",
  "    [MaxLength(\x7b\x7b field.max_length \x7d\x7d)]",
  "\x7b% endif %\x7d",
  "\x7b% if field.min_length and field.is_string %\x7d",
  "    [MinLength(\x7b\x7b field.min_length \x7d\x7d)]",
  "\x7b% endif %\x7d",
  "    public \x7b\x7b field.type_name \x7d\x7d \x7b\x7b field.name \x7d\x7d \x7b get; set; \x7d\x7b\x7b field.initializer \x7d\x7d",
  "\x7b% if not loop.last %\x7d",
  "",
  "\x7b% endif %\x7d",
  "\x7b% endfor %\x7d",
  "\x7d"]

def typescriptDto : String := ofLines [
  "// Generated by crudforge. Do not edit.",
  "\x7b% for line in imports %\x7d",
  "\x7b\x7b line \x7d\x7d",
  "\x7b% endfor %\x7d",
  "",
  "/**",
  " * \x7b\x7b entity_name \x7d\x7d \x7b\x7b kind | lower \x7d\x7d model",
  "\x7b% if summary %\x7d",
  " * \x7b\x7b summary \x7d\x7d",
  "\x7b% endif %\x7d",
  " */",
  "export interface \x7b\x7b type_name \x7d\x7d \x7b",
  "\x7b% for field in fields %\x7d",
  "\x7b% if field.comment or field.default_value %\x7d",
  "  /**",
  "\x7b% if field.comment %\x7d",
  "   * \x7b\x7b field.comment \x7d\x7d",
  "\x7b% endif %\x7d",
  "\x7b% if field.default_value %\x7d",
  "   * @default \x7b\x7b field.default_value \x7d\x7d",
  "\x7b% endif %\x7d",
  "   */",
  "\x7b% endif %\x7d",
  "  \x7b\x7b field.name \x7d\x7d\x7b\x7b \"?\" if field.is_nullable else \"\" \x7d\x7d: \x7b\x7b field.type_name \x7d\x7d;",
  "\x7b% endfor %\x7d",
  "\x7b% if paging %\x7d",
  "  pageIndex?: number;",
  "  pageSize?: number;",
  "\x7b% endif %\x7d",
  "\x7d"]

def rustDto : String := ofLines [
  "// Generated by crudforge. Do not edit.",
  "use serde::\x7bDeserialize, Serialize\x7d;",
  "\x7b% for line in imports %\x7d",
  "\x7b\x7b line \x7d\x7d",
  "\x7b% endfor %\x7d",
  "",
  "/// \x7b\x7b entity_name \x7d\x7d \x7b\x7b kind | lower \x7d\x7d model",
  "\x7b% if summary %\x7d",
  "///",
  "/// \x7b\x7b summary \x7d\x7d",
  "\x7b% endif %\x7d",
  "#[derive(Debug, Clone, PartialEq, Serialize, Deserialize)]",
  "#[serde(rename_all = \"camelCase\")]",
  "pub struct \x7b\x7b type_name \x7d\x7d \x7b",
  "\x7b% for field in fields %\x7d",
  "\x7b% if field.comment %\x7d",
  "    /// \x7b\x7b field.comment \x7d\x7d",
  "\x7b% endif %\x7d",
  "\x7b% if field.is_nullable %\x7d",
  "    #[serde(default, skip_serializing_if = \"Option::is_none\")]",
  "\x7b% endif %\x7d",
  "    pub \x7b\x7b field.name \x7d\x7d: \x7b\x7b field.type_name \x7d\x7d,",
  "\x7b% endfor %\x7d",
  "\x7b% if paging %\x7d",
  "    #[serde(default, skip_serializing_if = \"Option::is_none\")]",
  "    pub page_index: Option<i32>,",
  "    #[serde(default, skip_serializing_if = \"Option::is_none\")]",
  "    pub page_size: Option<i32>,",
  "\x7b% endif %\x7d",
  "\x7d"]

def rustIndex : String := ofLines [
  "// Generated by crudforge. Do not edit.",
  "\x7b% for module in modules %\x7d",
  "mod \x7b\x7b module \x7d\x7d;",
  "pub use \x7b\x7b module \x7d\x7d::*;",
  "\x7b% endfor %\x7d"]

end Source
end Template
end Scaffold
