/-!
# Names that a configuration can mention

A configuration may name anything that the program is known to hold, as a module and a member of it.
What is said about a name depends on whether there is such a member, so all of them are listed.
-/

set_option autoImplicit false

namespace ClientPlan

/-- The modules with their members; the members are separated by blanks. -/
def namedModules : List (String × List String) := [
  ("specgen", [
    "__version__"]),
  ("specgen.app", [
    "Any EXIT_GENERIC_FAILURE Optional Path SpecgenError _BASE_MODULE_OPTION _CONFIG_OPTION",
    "_NO_TAGS_OPTION _SPEC_ARGUMENT __version__ _load_state _setup_signal_handlers",
    "_version_callback _write_crash_log annotations app datetime error info init_command main",
    "main_callback operations_command plan_command print_table schemas_command signal success",
    "sys traceback typer"]),
  ("specgen.config", [
    "Any ConfigError GeneratorConfig Optional PROJECT_CONFIG_FILENAME Path ValidationError",
    "_APP_NAME _FALSE_VALUES _TRUE_VALUES _atomic_write _is_xdg_platform _read_project_data",
    "_validate annotations env_overrides get_data_dir importlib json load_processor",
    "load_project_config os platform project_config_path resolve_config save_project_config",
    "tempfile"]),
  ("specgen.exceptions", [
    "Any ConfigError EXIT_GENERIC_FAILURE EXIT_INVALID_USAGE EXIT_LOOKUP_FAILURE",
    "EXIT_SPEC_PARSE_ERROR EXIT_UNSUPPORTED_MERGE InvalidUsageError ParameterLookupError",
    "SpecParseError SpecgenError UnsupportedMergeError annotations"]),
  ("specgen.exit_codes", [
    "EXIT_GENERIC_FAILURE EXIT_INVALID_USAGE EXIT_LOOKUP_FAILURE EXIT_SPEC_PARSE_ERROR",
    "EXIT_SUCCESS EXIT_UNSUPPORTED_MERGE"]),
  ("specgen.generator", [
    "Renderer __all__ emit merge_file_units new_state plan_rows reconcile_file_maps run",
    "run_state"]),
  ("specgen.generator.files", [
    "FileUnit INTERFACE_FILE_SUFFIX ModuleName TYPE_CHECKING UnsupportedMergeError annotations",
    "collect_interface_files collect_operation_files collect_schema_files file_name file_stem",
    "function_case logger logging merge_file_units posixpath reconcile_file_maps",
    "reconcile_files replace"]),
  ("specgen.generator.pipeline", [
    "ABC ApiSpec Callable DefaultTypeEncoder FileUnit GeneratorConfig ModuleName Optional",
    "PipelineState Processor Renderer STAGES Stage TypeEncoder abstractmethod annotations",
    "collect_interface_files collect_operation_files collect_schema_files discover_schemas",
    "emit logger logging new_state plan_rows process_operations process_schemas",
    "reconcile_files run run_state"]),
  ("specgen.models", [
    "APIInfo Any ApiSpec BINARY BaseModel ConfigDict ExternalDocs Field FileUnit",
    "GeneratorConfig HTTPMethod MediaSpec ModuleName Operation OperationSpec Optional Param",
    "ParameterLocation ParameterSpec PathItemSpec RequestBodySpec ResponseSpec Schema",
    "SchemaField TypeDescriptor annotations enum model_validator"]),
  ("specgen.output", [
    "Any Console Enum Optional OutputFormat OutputManager RichHandler Table _is_tty _output",
    "_should_disable_color annotations configure_logging error escape get_output info json",
    "logging os print_table reset_output set_output success sys"]),
  ("specgen.parser", [
    "__all__ load_spec read_spec resolve_pointer validate_openapi_version"]),
  ("specgen.parser.loader", [
    "Any Path SpecParseError _YAML_SUFFIXES _fetch _parse _read_file annotations httpx json",
    "load_spec logger logging sys validate_openapi_version yaml"]),
  ("specgen.parser.pointer", [
    "Any SpecParseError annotations escape_segment follow_refs join_pointer resolve_pointer",
    "unescape_segment"]),
  ("specgen.parser.reader", [
    "APIInfo Any ApiSpec ExternalDocs HTTPMethod MediaSpec OperationSpec Optional",
    "ParameterLocation ParameterSpec PathItemSpec RequestBodySpec ResponseSpec _read_content",
    "_read_external_docs _read_parameters _read_path_item _read_request_body _read_responses",
    "annotations follow_refs join_pointer logger logging read_spec"]),
  ("specgen.processor", [
    "DefaultTypeEncoder PipelineState Processor TypeEncoder __all__ build_operations",
    "classify_parameters discover_schemas function_case merge_parameters normalize",
    "operation_names process_operations process_schemas type_case"]),
  ("specgen.processor.base", [
    "Any HTTPMethod MediaSpec OperationSpec Optional Param Processor Schema TYPE_CHECKING",
    "_compile _matches _path_has_prefix annotations functools logger logging naming re"]),
  ("specgen.processor.naming", [
    "_EDGE_RE _ID_SEPARATOR_RE _PLACEHOLDER_RE _TOKEN_RE annotations fallback_operation_id",
    "function_case normalize operation_names re tokens type_case"]),
  ("specgen.processor.operation", [
    "BINARY HTTPMethod JSON_CONTENT_TYPE ModuleName Operation OperationSpec Optional",
    "ResponseSpec TYPE_CHECKING TypeDescriptor annotations build_operations",
    "classify_parameters iter_operations logger logging merge_parameters module_name",
    "process_operation process_operations replace request_body response_type responses"]),
  ("specgen.processor.params", [
    "Optional Param ParameterLocation ParameterLookupError ParameterSpec TYPE_CHECKING",
    "_PLACEHOLDER_RE _lookup annotations classify_parameters logger logging merge_parameters",
    "path_placeholders re"]),
  ("specgen.processor.schemas", [
    "Any HTTPMethod Iterator OperationSpec Optional Schema SchemaField TYPE_CHECKING",
    "TypeDescriptor _COMPONENT_PREFIX _COMPOSITION_KEYWORDS _Collector _properties annotations",
    "discover_schemas iter_operations join_pointer logger logging operation_schema_roots",
    "process_schemas replace resolve_pointer type_case unescape_segment"]),
  ("specgen.processor.state", [
    "ApiSpec FileUnit GeneratorConfig ModuleName Operation PipelineState Schema TYPE_CHECKING",
    "annotations dataclass field"]),
  ("specgen.processor.type_encoder", [
    "ABC Any BINARY DefaultTypeEncoder Optional TYPE_CHECKING TypeDescriptor TypeEncoder",
    "_PRIMITIVES _with_nullable abstractmethod annotations join_pointer resolve_pointer"])]

/-- The members that every module has. -/
def commonMembers : List String := [
  "__name__", "__doc__", "__package__", "__loader__", "__spec__", "__file__", "__cached__",
  "__builtins__", "__annotations__", "__class__", "__delattr__", "__dict__", "__dir__", "__eq__",
  "__format__", "__ge__", "__getattribute__", "__getstate__", "__gt__", "__hash__", "__init__",
  "__init_subclass__", "__le__", "__lt__", "__ne__", "__new__", "__reduce__", "__reduce_ex__",
  "__repr__", "__setattr__", "__sizeof__", "__str__", "__subclasshook__"]

end ClientPlan
