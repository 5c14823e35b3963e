/-
Built-in templates of clients: services, models and their index. One text a line; braces are written by their code.
-/
import Scaffold.Template.Basic

namespace Scaffold
namespace Template
namespace Source

def typescriptServiceLines : List String := [
  "// Generated by crudforge. Do not edit.",
  "\x7b% for line in imports %\x7d",
  "\x7b\x7b line \x7d\x7d",
  "\x7b% endfor %\x7d",
  "",
  "/** Operations tagged `\x7b\x7b tag \x7d\x7d` */",
  "export class \x7b\x7b class_name \x7d\x7d \x7b",
  "  constructor(",
  "    private readonly baseUrl: string = '',",
  "    private readonly init: RequestInit = \x7b\x7d,",
  "  ) \x7b\x7d",
  "\x7b% for op in operations %\x7d",
  "",
  "\x7b% if op.summary %\x7d",
  "  /** \x7b\x7b op.summary \x7d\x7d */",
  "\x7b% endif %\x7d",
  "  async \x7b\x7b op.name \x7d\x7d(\x7b\x7b op.parameters \x7d\x7d): Promise<\x7b\x7b op.return_type or \"void\" \x7d\x7d> \x7b",
  "    const query = new URLSearchParams();",
  "\x7b% for q in op.query %\x7d",
  "    if (\x7b\x7b q.variable \x7d\x7d != null) query.set('\x7b\x7b q.name \x7d\x7d', String(\x7b\x7b q.variable \x7d\x7d));",
  "\x7b% endfor %\x7d",
  "    const headers: Record<string, string> = \x7b\x7d;",
  "\x7b% for h in op.headers %\x7d",
  "    if (\x7b\x7b h.variable \x7d\x7d != null) headers['\x7b\x7b h.name \x7d\x7d'] = String(\x7b\x7b h.variable \x7d\x7d);",
  "\x7b% endfor %\x7d",
  "\x7b% if op.body_kind == \"multipart\" %\x7d",
  "    return this.request<\x7b\x7b op.return_type or \"void\" \x7d\x7d>('\x7b\x7b op.method \x7d\x7d', `\x7b\x7b op.path \x7d\x7d`, query, headers, form);",
  "\x7b% elif op.body_kind == \"json\" %\x7d",
  "    return this.request<\x7b\x7b op.return_type or \"void\" \x7d\x7d>('\x7b\x7b op.method \x7d\x7d', `\x7b\x7b op.path \x7d\x7d`, query, headers, body);",
  "\x7b% else %\x7d",
  "    return this.request<\x7b\x7b op.return_type or \"void\" \x7d\x7d>('\x7b\x7b op.method \x7d\x7d', `\x7b\x7b op.path \x7d\x7d`, query, headers);",
  "\x7b% endif %\x7d",
  "  \x7d",
  "\x7b% endfor %\x7d",
  "",
  "  private async request<T>(",
  "    method: string,",
  "    path: string,",
  "    query: URLSearchParams,",
  "    headers: Record<string, string>,",
  "    body?: unknown,",
  "  ): Promise<T> \x7b",
  "    const search = query.toString();",
  "    const url = `$\x7bthis.baseUrl\x7d$\x7bpath\x7d$\x7bsearch ? `?$\x7bsearch\x7d` : ''\x7d`;",
  "    const isForm = body instanceof FormData;",
  "    const response = await fetch(url, \x7b",
  "      ...this.init,",
  "      method,",
  "      headers: isForm ? headers : \x7b 'Content-Type': 'application/json', ...headers \x7d,",
  "      body: body === undefined ? undefined : isForm ? body : JSON.stringify(body),",
  "    \x7d);",
  "    if (!response.ok) \x7b",
  "      throw new Error(`$\x7bmethod\x7d $\x7bpath\x7d failed with status $\x7bresponse.status\x7d`);",
  "    \x7d",
  "    if (response.status === 204) \x7b",
  "      return undefined as T;",
  "    \x7d",
  "    return (await response.json()) as T;",
  "  \x7d",
  "\x7d"]

def typescriptService : String := ofLines typescriptServiceLines

def typescriptModel : String := ofLines [
  "// Generated by crudforge. Do not edit.",
  "\x7b% for line in imports %\x7d",
  "\x7b\x7b line \x7d\x7d",
  "\x7b% endfor %\x7d",
  "",
  "\x7b% if summary %\x7d",
  "/** \x7b\x7b summary \x7d\x7d */",
  "\x7b% endif %\x7d",
  "\x7b% if is_enum %\x7d",
  "export enum \x7b\x7b type_name \x7d\x7d \x7b",
  "\x7b% for member in members %\x7d",
  "\x7b% if member.description %\x7d",
  "  /** \x7b\x7b member.description \x7d\x7d */",
  "\x7b% endif %\x7d",
  "  \x7b\x7b member.name \x7d\x7d = \x7b\x7b member.value \x7d\x7d,",
  "\x7b% endfor %\x7d",
  "\x7d",
  "\x7b% else %\x7d",
  "export interface \x7b\x7b type_name \x7d\x7d \x7b",
  "\x7b% for field in fields %\x7d",
  "\x7b% if field.comment %\x7d",
  "  /** \x7b\x7b field.comment \x7d\x7d */",
  "\x7b% endif %\x7d",
  "  \x7b\x7b field.key \x7d\x7d\x7b\x7b \"\" if field.is_required else \"?\" \x7d\x7d: \x7b\x7b field.type_name \x7d\x7d;",
  "\x7b% endfor %\x7d",
  "\x7d",
  "\x7b% endif %\x7d"]

def typescriptIndex : String := ofLines [
  "// Generated by crudforge. Do not edit.",
  "\x7b% for module in modules %\x7d",
  "export * from './\x7b\x7b module \x7d\x7d';",
  "\x7b% endfor %\x7d"]

def csharpServiceLines : List String := [
  "// <auto-generated />",
  "\x7b% for line in imports %\x7d",
  "\x7b\x7b line \x7d\x7d",
  "\x7b% endfor %\x7d",
  "",
  "namespace \x7b\x7b namespace \x7d\x7d;",
  "",
  "/// <summary>",
  "/// Operations tagged `\x7b\x7b tag \x7d\x7d`",
  "/// </summary>",
  "public partial class \x7b\x7b class_name \x7d\x7d",
  "\x7b",
  "    private readonly HttpClient _http;",
  "",
  "    public \x7b\x7b class_name \x7d\x7d(HttpClient http)",
  "    \x7b",
  "        _http = http;",
  "    \x7d",
  "\x7b% for op in operations %\x7d",
  "",
  "\x7b% if op.summary %\x7d",
  "    /// <summary>",
  "    /// \x7b\x7b op.summary \x7d\x7d",
  "    /// </summary>",
  "\x7b% endif %\x7d",
  "    public async \x7b\x7b \"Task<\" ~ op.return_type ~ \"?>\" if op.return_type else \"Task\" \x7d\x7d \x7b\x7b op.name \x7d\x7d(\x7b\x7b op.parameters \x7d\x7d)",
  "    \x7b",
  "        var query = new List<string>();",
  "\x7b% for q in op.query %\x7d",
  "        if (\x7b\x7b q.variable \x7d\x7d != null) query.Add($\"\x7b\x7b q.name \x7d\x7d=\x7bUri.EscapeDataString(\x7b\x7b q.variable \x7d\x7d.ToString()!)\x7d\");",
  "\x7b% endfor %\x7d",
  "        var url = $\"\x7b\x7b op.path \x7d\x7d\";",
  "        if (query.Count > 0) url += \"?\" + string.Join(\"&\", query);",
  "",
  "        using var request = new HttpRequestMessage(new HttpMethod(\"\x7b\x7b op.method \x7d\x7d\"), url);",
  "\x7b% for h in op.headers %\x7d",
  "        if (\x7b\x7b h.variable \x7d\x7d != null) request.Headers.Add(\"\x7b\x7b h.name \x7d\x7d\", \x7b\x7b h.variable \x7d\x7d.ToString());",
  "\x7b% endfor %\x7d",
  "\x7b% if op.body_kind == \"multipart\" %\x7d",
  "        request.Content = form;",
  "\x7b% elif op.body_kind == \"json\" %\x7d",
  "        request.Content = JsonContent.Create(body);",
  "\x7b% endif %\x7d",
  "        using var response = await _http.SendAsync(request);",
  "        response.EnsureSuccessStatusCode();",
  "\x7b% if op.return_type %\x7d",
  "        return await response.Content.ReadFromJsonAsync<\x7b\x7b op.return_type \x7d\x7d>();",
  "\x7b% endif %\x7d",
  "    \x7d",
  "\x7b% endfor %\x7d",
  "\x7d"]

def csharpService : String := ofLines csharpServiceLines

def csharpModelLines : List String := [
  "// <auto-generated />",
  "\x7b% for line in imports %\x7d",
  "\x7b\x7b line \x7d\x7d",
  "\x7b% endfor %\x7d",
  "",
  "namespace \x7b\x7b namespace \x7d\x7d;",
  "",
  "\x7b% if summary %\x7d",
  "/// <summary>",
  "/// \x7b\x7b summary \x7d\x7d",
  "/// </summary>",
  "\x7b% endif %\x7d",
  "\x7b% if is_enum %\x7d",
  "\x7b% if not is_integer %\x7d",
  "[JsonConverter(typeof(JsonStringEnumConverter))]",
  "\x7b% endif %\x7d",
  "public enum \x7b\x7b type_name \x7d\x7d",
  "\x7b",
  "\x7b% for member in members %\x7d",
  "\x7b% if member.description %\x7d",
  "    /// <summary>",
  "    /// \x7b\x7b member.description \x7d\x7d",
  "    /// </summary>",
  "\x7b% endif %\x7d",
  "\x7b% if is_integer %\x7d",
  "    \x7b\x7b member.name \x7d\x7d = \x7b\x7b member.value \x7d\x7d,",
  "\x7b% else %\x7d",
  "    [EnumMember(Value = \"\x7b\x7b member.raw \x7d\x7d\")]",
  "    \x7b\x7b member.name \x7d\x7d,",
  "\x7b% endif %\x7d",
  "\x7b% endfor %\x7d",
  "\x7d",
  "\x7b% else %\x7d",
  "public partial class \x7b\x7b type_name \x7d\x7d",
  "\x7b",
  "\x7b% for field in fields %\x7d",
  "\x7b% if field.comment %\x7d",
  "    /// <summary>",
  "    /// \x7b\x7b field.comment \x7d\x7d",
  "    /// </summary>",
  "\x7b% endif %\x7d",
  "    [JsonPropertyName(\"\x7b\x7b field.key \x7d\x7d\")]",
  "    public \x7b\x7b field.type_name \x7d\x7d \x7b\x7b field.name \x7d\x7d \x7b get; set; \x7d\x7b\x7b field.initializer \x7d\x7d",
  "\x7b% if not loop.last %\x7d",
  "",
  "\x7b% endif %\x7d",
  "\x7b% endfor %\x7d",
  "\x7d",
  "\x7b% endif %\x7d"]

def csharpModel : String := ofLines csharpModelLines

end Source
end Template
end Scaffold
