/-
Built-in templates of the server side: managers and controllers. One text a line; braces are written by their code.
-/
import Scaffold.Template.Basic

namespace Scaffold
namespace Template
namespace Source

def manager : String := ofLines [
  "// <auto-generated />",
  "\x7b% for line in imports %\x7d",
  "\x7b\x7b line \x7d\x7d",
  "\x7b% endfor %\x7d",
  "",
  "namespace \x7b\x7b namespace \x7d\x7d;",
  "",
  "/// <summary>",
  "/// Data access for \x7b\x7b entity_name \x7d\x7d",
  "\x7b% if summary %\x7d",
  "/// \x7b\x7b summary \x7d\x7d",
  "\x7b% endif %\x7d",
  "/// </summary>",
  "public partial class \x7b\x7b manager_name \x7d\x7d",
  "\x7b",
  "    private readonly DbContext _context;",
  "    private readonly DbSet<\x7b\x7b entity_name \x7d\x7d> _set;",
  "",
  "    public \x7b\x7b manager_name \x7d\x7d(DbContext context)",
  "    \x7b",
  "        _context = context;",
  "        _set = context.Set<\x7b\x7b entity_name \x7d\x7d>();",
  "    \x7d",
  "",
  "    public IQueryable<\x7b\x7b entity_name \x7d\x7d> Query => _set.AsQueryable();",
  "",
  "    public async Task<\x7b\x7b entity_name \x7d\x7d> AddAsync(\x7b\x7b add_dto \x7d\x7d dto)",
  "    \x7b",
  "        var entity = new \x7b\x7b entity_name \x7d\x7d",
  "        \x7b",
  "\x7b% for assign in add_assignments if not assign.shadow %\x7d",
  "            \x7b\x7b assign.name \x7d\x7d = \x7b\x7b assign.value \x7d\x7d,",
  "\x7b% endfor %\x7d",
  "        \x7d;",
  "        _set.Add(entity);",
  "\x7b% for assign in add_assignments if assign.shadow %\x7d",
  "        _context.Entry(entity).Property(\"\x7b\x7b assign.name \x7d\x7d\").CurrentValue = \x7b\x7b assign.value \x7d\x7d;",
  "\x7b% endfor %\x7d",
  "        await _context.SaveChangesAsync();",
  "        return entity;",
  "    \x7d",
  "",
  "    public async Task<\x7b\x7b entity_name \x7d\x7d?> UpdateAsync(\x7b\x7b key_type \x7d\x7d id, \x7b\x7b update_dto \x7d\x7d dto)",
  "    \x7b",
  "        var entity = await _set.FindAsync(id);",
  "        if (entity == null)",
  "        \x7b",
  "            return null;",
  "        \x7d",
  "\x7b% for assign in update_assignments %\x7d",
  "\x7b% if assign.shadow %\x7d",
  "        if (dto.\x7b\x7b assign.name \x7d\x7d != null) _context.Entry(entity).Property(\"\x7b\x7b assign.name \x7d\x7d\").CurrentValue = \x7b\x7b assign.value \x7d\x7d;",
  "\x7b% else %\x7d",
  "        if (dto.\x7b\x7b assign.name \x7d\x7d != null) entity.\x7b\x7b assign.name \x7d\x7d = \x7b\x7b assign.value \x7d\x7d;",
  "\x7b% endif %\x7d",
  "\x7b% endfor %\x7d",
  "        await _context.SaveChangesAsync();",
  "        return entity;",
  "    \x7d",
  "",
  "    public async Task<(List<\x7b\x7b item_dto \x7d\x7d> Items, int Count)> FilterAsync(\x7b\x7b filter_dto \x7d\x7d filter)",
  "    \x7b",
  "        var query = _set.AsNoTracking();",
  "\x7b% for f in filters %\x7d",
  "        if (filter.\x7b\x7b f.name \x7d\x7d != null)",
  "        \x7b",
  "            query = query.Where(q => \x7b\x7b f.predicate \x7d\x7d);",
  "        \x7d",
  "\x7b% endfor %\x7d",
  "        var count = await query.CountAsync();",
  "        var pageIndex = filter.PageIndex < 1 ? 1 : filter.PageIndex;",
  "        var items = await query",
  "            .Skip((pageIndex - 1) * filter.PageSize)",
  "            .Take(filter.PageSize)",
  "            .ToListAsync();",
  "        return (items.Select(ToItemDto).ToList(), count);",
  "    \x7d",
  "",
  "    public async Task<\x7b\x7b detail_dto \x7d\x7d?> GetDetailAsync(\x7b\x7b key_type \x7d\x7d id)",
  "    \x7b",
  "        var entity = await _set.AsNoTracking()",
  "\x7b% for include in includes %\x7d",
  "            .Include(q => q.\x7b\x7b include \x7d\x7d)",
  "\x7b% endfor %\x7d",
  "            .FirstOrDefaultAsync(q => \x7b\x7b key_predicate \x7d\x7d);",
  "        return entity == null ? null : ToDetailDto(entity);",
  "    \x7d",
  "\x7b% for lookup in lookups %\x7d",
  "",
  "    public async Task<List<\x7b\x7b entity_name \x7d\x7d>> FindBy\x7b\x7b lookup.name \x7d\x7dAsync(\x7b\x7b lookup.type_name \x7d\x7d \x7b\x7b lookup.parameter \x7d\x7d)",
  "    \x7b",
  "        return await _set.AsNoTracking().Where(q => \x7b\x7b lookup.predicate \x7d\x7d).ToListAsync();",
  "    \x7d",
  "\x7b% endfor %\x7d",
  "",
  "    public async Task<bool> ExistsAsync(\x7b\x7b key_type \x7d\x7d id)",
  "    \x7b",
  "        return await _set.FindAsync(id) is not null;",
  "    \x7d",
  "",
  "    public async Task<bool> DeleteAsync(\x7b\x7b key_type \x7d\x7d id)",
  "    \x7b",
  "        var entity = await _set.FindAsync(id);",
  "        if (entity == null)",
  "        \x7b",
  "            return false;",
  "        \x7d",
  "        _set.Remove(entity);",
  "        await _context.SaveChangesAsync();",
  "        return true;",
  "    \x7d",
  "",
  "    public static \x7b\x7b detail_dto \x7d\x7d ToDetailDto(\x7b\x7b entity_name \x7d\x7d entity) => new()",
  "    \x7b",
  "\x7b% for field in detail_fields %\x7d",
  "        \x7b\x7b field \x7d\x7d = entity.\x7b\x7b field \x7d\x7d,",
  "\x7b% endfor %\x7d",
  "    \x7d;",
  "",
  "    public static \x7b\x7b item_dto \x7d\x7d ToItemDto(\x7b\x7b entity_name \x7d\x7d entity) => new()",
  "    \x7b",
  "\x7b% for field in item_fields %\x7d",
  "        \x7b\x7b field \x7d\x7d = entity.\x7b\x7b field \x7d\x7d,",
  "\x7b% endfor %\x7d",
  "    \x7d;",
  "\x7d"]

def controller : String := ofLines [
  "// <auto-generated />",
  "\x7b% for line in imports %\x7d",
  "\x7b\x7b line \x7d\x7d",
  "\x7b% endfor %\x7d",
  "",
  "namespace \x7b\x7b namespace \x7d\x7d;",
  "",
  "/// <summary>",
  "/// \x7b\x7b entity_name \x7d\x7d endpoints",
  "\x7b% if summary %\x7d",
  "/// \x7b\x7b summary \x7d\x7d",
  "\x7b% endif %\x7d",
  "/// </summary>",
  "[ApiController]",
  "[Route(\"api/[controller]\")]",
  "public class \x7b\x7b controller_name \x7d\x7d : ControllerBase",
  "\x7b",
  "\x7b% for dep in dependencies %\x7d",
  "    private readonly \x7b\x7b dep.type_name \x7d\x7d \x7b\x7b dep.field \x7d\x7d;",
  "\x7b% endfor %\x7d",
  "",
  "    public \x7b\x7b controller_name \x7d\x7d(\x7b\x7b constructor_parameters \x7d\x7d)",
  "    \x7b",
  "\x7b% for dep in dependencies %\x7d",
  "        \x7b\x7b dep.field \x7d\x7d = \x7b\x7b dep.parameter \x7d\x7d;",
  "\x7b% endfor %\x7d",
  "    \x7d",
  "",
  "    [HttpPost]",
  "    public async Task<IActionResult> AddAsync(\x7b\x7b add_dto \x7d\x7d dto)",
  "    \x7b",
  "\x7b% for check in checks %\x7d",
  "        if (!await \x7b\x7b check.manager_field \x7d\x7d.ExistsAsync(dto.\x7b\x7b check.field \x7d\x7d))",
  "        \x7b",
  "            return NotFound(\"\x7b\x7b check.entity_name \x7d\x7d not found\");",
  "        \x7d",
  "\x7b% endfor %\x7d",
  "        var entity = await _manager.AddAsync(dto);",
  "        return Ok(\x7b\x7b manager_name \x7d\x7d.ToDetailDto(entity));",
  "    \x7d",
  "",
  "    [HttpPatch(\"\x7bid\x7d\")]",
  "    public async Task<IActionResult> UpdateAsync([FromRoute] \x7b\x7b key_type \x7d\x7d id, \x7b\x7b update_dto \x7d\x7d dto)",
  "    \x7b",
  "        var entity = await _manager.UpdateAsync(id, dto);",
  "        return entity == null ? NotFound() : Ok(\x7b\x7b manager_name \x7d\x7d.ToDetailDto(entity));",
  "    \x7d",
  "",
  "    [HttpPost(\"filter\")]",
  "    public async Task<IActionResult> FilterAsync(\x7b\x7b filter_dto \x7d\x7d filter)",
  "    \x7b",
  "        var (items, count) = await _manager.FilterAsync(filter);",
  "        return Ok(new \x7b Items = items, Count = count \x7d);",
  "    \x7d",
  "",
  "    [HttpGet(\"\x7bid\x7d\")]",
  "    public async Task<IActionResult> GetDetailAsync([FromRoute] \x7b\x7b key_type \x7d\x7d id)",
  "    \x7b",
  "        var detail = await _manager.GetDetailAsync(id);",
  "        return detail == null ? NotFound() : Ok(detail);",
  "    \x7d",
  "",
  "    [HttpDelete(\"\x7bid\x7d\")]",
  "    public async Task<IActionResult> DeleteAsync([FromRoute] \x7b\x7b key_type \x7d\x7d id)",
  "    \x7b",
  "        return await _manager.DeleteAsync(id) ? NoContent() : NotFound();",
  "    \x7d",
  "\x7d"]

def apiController : String := ofLines [
  "// <auto-generated />",
  "\x7b% for line in imports %\x7d",
  "\x7b\x7b line \x7d\x7d",
  "\x7b% endfor %\x7d",
  "",
  "namespace \x7b\x7b namespace \x7d\x7d;",
  "",
  "/// <summary>",
  "/// Operations tagged `\x7b\x7b tag \x7d\x7d`",
  "/// </summary>",
  "[ApiController]",
  "public partial class \x7b\x7b controller_name \x7d\x7d : ControllerBase",
  "\x7b",
  "\x7b% for action in actions %\x7d",
  "\x7b% if action.summary %\x7d",
  "    /// <summary>",
  "    /// \x7b\x7b action.summary \x7d\x7d",
  "    /// </summary>",
  "\x7b% endif %\x7d",
  "    [\x7b\x7b action.http_attribute \x7d\x7d(\"\x7b\x7b action.path \x7d\x7d\")]",
  "    public async Task<\x7b\x7b action.return_type \x7d\x7d> \x7b\x7b action.name \x7d\x7d(\x7b\x7b action.parameters \x7d\x7d)",
  "    \x7b",
  "        await Task.CompletedTask;",
  "        return StatusCode(StatusCodes.Status501NotImplemented);",
  "    \x7d",
  "\x7b% if not loop.last %\x7d",
  "",
  "\x7b% endif %\x7d",
  "\x7b% endfor %\x7d",
  "\x7d"]

end Source
end Template
end Scaffold
